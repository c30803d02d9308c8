import Mathlib.Data.List.Perm.Subperm
import Templating.Proofs.Meaning
import Templating.Proofs.Reference

/-!
# Compiling and rendering is correct

A document that was compiled renders to what it means, whatever has been compiled and rendered on
its registry before: whichever of its blocks are built already, and whatever numbers they have.

* `Run.Gives` — a computation that has the outcome of a rendition;
* `Document.Walks`, `Document.Renders` — what is shown of a level, and of a template made from it;
* `Document.walks` — the induction on the document;
* `Reached`, `compile_and_render` — the states that compiling and rendering lead to, and the
  theorem.
-/

namespace Templating

variable {σ : Type} {r : RegistryId} {partials : Entries (Partial σ)} {meanings : Meanings}
  {origin : Store σ} {enough : Nat}

namespace Run

/-- The computation has the outcome of the rendition, if none of the texts of the rendition brings
a brace. -/
def Gives (x : Run σ Text) (s : Store σ) (rendition : Rendition) : Prop :=
  (∀ text ∈ rendition.texts, '{' ∉ text) → (x.exec s).1 = rendition.outcome

variable {s s' : Store σ}

theorem gives_pure (s : Store σ) (t : Text) : Gives (pure t) s (.text t) := fun _ => rfl

theorem gives_throw (s : Store σ) (failure : Failure) :
    Gives (throw failure) s (.failed failure) := fun _ => rfl

/-- What follows a computation starts from the store that it leaves. -/
theorem Gives.bind {x : Run σ Text} {f : Text → Run σ Text} {first : Rendition}
    {next : Text → Rendition} (hx : Gives x s first) (hleads : s.LeadsTo r (x.exec s).2)
    (hf : ∀ t s', s.LeadsTo r s' → Gives (f t) s' (next t)) :
    Gives (x >>= f) s (first.andThen next) := by
  intro htexts
  rcases hexec : x.exec s with ⟨outcome, s'⟩
  rw [hexec] at hleads
  cases houtcome : first.outcome with
  | error failure =>
    rw [Rendition.andThen, houtcome] at htexts ⊢
    have hfirst := hx htexts
    rw [hexec, houtcome] at hfirst
    obtain rfl : outcome = .error failure := hfirst
    rw [exec_bind_error hexec]
  | ok t =>
    rw [Rendition.andThen, houtcome] at htexts ⊢
    have hfirst := hx fun text htext => htexts text (List.mem_append_left _ htext)
    rw [hexec, houtcome] at hfirst
    obtain rfl : outcome = .ok t := hfirst
    rw [exec_bind_ok hexec]
    exact hf t s' hleads fun text htext => htexts text (List.mem_append_right _ htext)

/-- A change to what comes out is a change to the outcome. -/
theorem Gives.map {x : Run σ Text} {rendition : Rendition} (hx : Gives x s rendition)
    (g : Text → Text) : Gives (do return g (← x)) s (rendition.map g) := by
  intro htexts
  have hx' := hx htexts
  rcases hexec : x.exec s with ⟨outcome, s'⟩
  rw [hexec] at hx'
  show _ = rendition.outcome.map g
  rw [← hx']
  cases outcome with
  | error failure => rw [exec_bind_error hexec]; rfl
  | ok t => rw [exec_bind_ok hexec]; rfl

-- ---------------------------------------------------------------------------
-- Paths and tags
-- ---------------------------------------------------------------------------

theorem splitReference_fst (reference : Text) : (splitReference reference).1 <+: reference := by
  rw [splitReference]
  cases hcut : Text.cut? Value.pathSeparator reference with
  | none => exact List.prefix_refl _
  | some parts =>
    obtain ⟨rfl, -⟩ := Text.cut?_eq_some_iff.mp hcut
    exact List.prefix_append ..

section Meanings

variable (hmeanings : meanings.Describe (origin.LeadsTo r) enough partials)
  (htidy : Tidy r partials origin) (hs : origin.LeadsTo r s) {depth : Nat} (hdepth : enough ≤ depth)
  (params : Value)

include hmeanings htidy hs hdepth

/-- A path that names no block leads to its meaning. -/
theorem lookup_outcome {path : Text} (hpath : ¬ "@block_".toList <+: path) :
    ((lookup (Node.render depth) r params path).exec s).1 = meanings.lookup params path := by
  -- only a path with an at sign leads to a partial
  by_cases hat : path.head? = some '@'
  · obtain ⟨reference, rfl⟩ := List.head?_eq_some_iff.mp hat
    have hname : ¬ "block_".toList <+: (splitReference reference).1 := fun hblock =>
      hpath (List.cons_prefix_cons.mpr ⟨rfl, hblock.trans (splitReference_fst reference)⟩)
    rw [lookup, Meanings.lookup, exec_bind_ok (exec_get s)]
    simp only [(hs.tidy htidy).named _ hname]
    cases hentry : partials.get? (splitReference reference).1 with
    | none =>
      rw [hmeanings.absent _ hentry]
      rfl
    | some entry =>
      obtain ⟨f, hf, hmeans⟩ := hmeanings.registered _ entry hentry
      obtain ⟨s', hresolve, -⟩ := hmeans.resolve hdepth params hs
      rw [hf]
      simp only
      cases hvalue : f params with
      | error failure =>
        rw [hvalue] at hresolve
        rw [exec_bind_error hresolve]
        rfl
      | ok value =>
        rw [hvalue] at hresolve
        rw [exec_bind_ok hresolve]
        cases (splitReference reference).2 with
        | none => rfl
        | some rest => rfl
  · have hmeaning : meanings.lookup params path = .ok (Value.resolve? path params) := by
      unfold Meanings.lookup
      split
      · exact absurd rfl hat
      · rfl
    rw [lookup_of_head hat, hmeaning]

theorem lookup_meaning {path : Text} (hpath : ¬ "@block_".toList <+: path) :
    ∃ s', (lookup (Node.render depth) r params path).exec s =
      (meanings.lookup params path, s') ∧ s.LeadsTo r s' :=
  ⟨_, Prod.ext (lookup_outcome hmeanings htidy hs hdepth params hpath) rfl,
    within_lookup (Store.LeadsTo.spans r)
      (Node.within_render (Store.LeadsTo.spans r) depth) r params path s⟩

/-- So a tag evaluates to what it means. -/
theorem evaluateTag_meaning (config : Config) {tag : Tag} (hpath : ¬ "@block_".toList <+: tag.path)
    (indent : Text) :
    ∃ s', (evaluateTag (lookup (Node.render depth) r params) config tag indent).exec s =
      (meanings.tagText config params tag indent, s') ∧ s.LeadsTo r s' := by
  obtain ⟨s', hexec, hleads⟩ := lookup_meaning hmeanings htidy hs hdepth params hpath
  refine ⟨s', ?_, hleads⟩
  rw [Meanings.tagText]
  cases hvalue : meanings.lookup params tag.path with
  | error failure =>
    rw [hvalue] at hexec
    rw [evaluateTag, exec_bind_error hexec]
  | ok value =>
    rw [hvalue] at hexec
    rw [evaluateTag_exec hexec]

theorem test_meaning {path : Text} (hpath : ¬ "@block_".toList <+: path) (negated : Bool) :
    ∃ s', (test (Node.render depth) params (.path r path negated)).exec s =
      ((meanings.lookup params path).map fun value => Value.isFalsyOrAbsent value == negated,
        s') ∧ s.LeadsTo r s' := by
  obtain ⟨s', hexec, hleads⟩ := lookup_meaning hmeanings htidy hs hdepth params hpath
  refine ⟨s', ?_, hleads⟩
  rw [test, exec_bind_ok (hs.tidy htidy).requireOpen]
  cases hvalue : meanings.lookup params path with
  | error failure =>
    rw [hvalue] at hexec
    rw [exec_bind_error hexec]
    rfl
  | ok value =>
    rw [hvalue] at hexec
    rw [exec_bind_ok hexec]
    rfl

-- ---------------------------------------------------------------------------
-- The nodes of blocks
-- ---------------------------------------------------------------------------

/-- Rendering one of two ways, as a condition says. -/
theorem gives_choose {heading : Heading} (hpath : ¬ "@block_".toList <+: heading.placeholder)
    {x y : Run σ Text} {onTrue onFalse : Rendition}
    (hx : ∀ s', s.LeadsTo r s' → Gives x s' onTrue)
    (hy : ∀ s', s.LeadsTo r s' → Gives y s' onFalse) :
    Gives (do
        if ← test (Node.render depth) params (.path r heading.placeholder heading.negated) then x
        else y) s
      (meanings.choose heading params onTrue onFalse) := by
  obtain ⟨s', hexec, hleads⟩ :=
    test_meaning hmeanings htidy hs hdepth params hpath heading.negated
  rw [Meanings.choose]
  cases hvalue : meanings.lookup params heading.placeholder with
  | error failure =>
    rw [hvalue] at hexec
    intro _
    rw [exec_bind_error hexec]
    rfl
  | ok value =>
    rw [hvalue] at hexec
    intro htexts
    rw [exec_bind_ok hexec]
    simp only at htexts ⊢
    split at htexts
    · rename_i hholds
      simp only [hholds, if_true]
      exact hx s' hleads htexts
    · rename_i hholds
      simp only [hholds]
      exact hy s' hleads htexts

end Meanings

/-- The scopes of the items are made without a look at the store. -/
theorem gives_renderItems {body : Value → Run σ Text} {meaning : Value → Rendition}
    (scope : Value → Nat → Value) : ∀ (items : List Value) (index : Nat) {s : Store σ},
    (∀ s', s.LeadsTo r s' → ∀ params, s'.LeadsTo r ((body params).exec s').2 ∧
      Gives (body params) s' (meaning params)) →
      Gives (renderItems body (fun item index => pure (scope item index)) index items) s
        (Rendition.items meaning scope index items)
  | [], _, s, _ => gives_pure s []
  | item :: rest, index, s, hbody => by
    obtain ⟨hleads, hgives⟩ := hbody s .start (scope item index)
    rw [renderItems, Rendition.items]
    refine hgives.bind hleads fun output s' hleads' => ?_
    have hrest := gives_renderItems scope rest (index + 1) fun s'' hleads'' params =>
      hbody s'' (hleads'.trans hleads'') params
    exact hrest.map (output ++ ·)

/-- Rendering the items of the array that a path leads to. -/
theorem gives_renderRepeating {body : Value → Run σ Text} {meaning : Value → Rendition}
    (path : Text) (itemName : Option Text) (params : Value)
    (hbody : ∀ s', s.LeadsTo r s' → ∀ params, s'.LeadsTo r ((body params).exec s').2 ∧
      Gives (body params) s' (meaning params)) :
    Gives (renderRepeating body path itemName none params) s
      (Rendition.repeated meaning path itemName params) := by
  rw [renderRepeating, Rendition.repeated]
  cases Value.resolve? path params with
  | none => exact gives_throw s _
  | some value =>
    cases value with
    | array items => exact gives_renderItems _ items 0 hbody
    | _ => exact gives_throw s _

/-- The tag that refers to a block evaluates to what the node of the block renders to, under the
indent; the node is made if this is its first use. -/
theorem evaluateTag_reference (h : Tidy r partials s) {number : Nat} {b : Block} {config : Config}
    {kept : Option (Shared (Node σ))}
    (hrecord : s.issued? ⟨r, number⟩ = some ⟨b, config, kept⟩)
    (below : Node σ → Value → Run σ Text) (params : Value) (options : Config) (indent : Text) :
    ∃ node s', s.LeadsTo r s' ∧ Represents s' r config b node ∧
      (evaluateTag (lookup below r params) options (Document.referenceTo number) indent).exec s =
        (((below node params).exec s').1.map (Text.indentContinuation indent),
          ((below node params).exec s').2) := by
  have hlt := Store.lt_nextNumber_of_issued? hrecord
  obtain ⟨node, s', hbuild, -, hnode⟩ := build_spec h hrecord
  have hleads : s.LeadsTo r ((build ⟨r, number⟩).exec s).2 := .build _ .start
  rw [hbuild] at hleads
  refine ⟨node.value, s', hleads, hnode, ?_⟩
  have hlookup := lookup_reference below params (h.registered number hlt) hbuild
  cases houtcome : ((below node.value params).exec s').1 with
  | error failure =>
    rw [houtcome] at hlookup
    rw [evaluateTag, exec_bind_error hlookup]
    rfl
  | ok text =>
    rw [houtcome] at hlookup
    rw [evaluateTag_exec hlookup]
    rfl

end Run

namespace Document

/-- In the stores that `origin` leads to, a template made from the document renders to what the
document means. -/
def Renders (r : RegistryId) (origin : Store σ) (meanings : Meanings) (depth : Nat)
    (config : Config) (doc : Document) : Prop :=
  ∀ {s : Store σ} {t : Template}, origin.LeadsTo r s → Compiled s r config doc.source t →
    ∀ params, Run.Gives (Run.renderTemplate (Node.render depth) t params) s
      (doc.meaning meanings config params)

variable {depth : Nat} {config : Config} {s : Store σ} {h : Heading}

/-- Rendering a body gives what the body means. -/
theorem Renders.body (htidy : Tidy r partials origin) (hs : origin.LeadsTo r s) {doc : Document}
    (hdoc : doc.Renders r origin meanings depth config) {t : Template}
    (ht : Compiled s r config doc.source t) :
    ∀ s', s.LeadsTo r s' → ∀ params,
      s'.LeadsTo r ((Node.renderVia (Node.render depth) (.template t) params).exec s').2 ∧
        Run.Gives (Node.renderVia (Node.render depth) (.template t) params) s'
          (doc.meaning meanings config params) := by
  intro s' hleads params
  exact ⟨.render r (depth + 1) (.template t) params s',
    hdoc (hs.trans hleads) (hleads.compiled (hs.tidy htidy) ht) params⟩

section Blocks

variable (hmeanings : meanings.Describe (origin.LeadsTo r) enough partials)
  (htidy : Tidy r partials origin) (hs : origin.LeadsTo r s) (hdepth : enough ≤ depth)

include hmeanings htidy hs hdepth

/-- The node of a block with one body gives what the block means. -/
theorem gives_block (hh : h.WellFormed) {body : Document} (hbody : body.WellFormed)
    (havoids : body.Avoids h) (hrenders : body.Renders r origin meanings depth config)
    {node : Node σ} (hnode : Represents s r config (h.opening.block body.source) node)
    (params : Value) :
    Run.Gives (node.render (depth + 1) params) s
      (meanings.blockOf h (body.meaning meanings config) params) := by
  have hparam : (h.opening.block body.source).param = h.param := param_opening hh
  have hbranches := branches_block hh hbody havoids
  rw [Meanings.blockOf]
  cases hnode with
  | onlyIf hkind hcontent ht =>
    obtain rfl : body.source = _ := congrArg Prod.fst (hbranches.symm.trans hcontent)
    rw [show h.kind = .conditional from hkind]
    exact Run.gives_choose hmeanings htidy hs hdepth params (hh.path hkind)
      (fun s' hleads => (hrenders.body htidy hs ht s' hleads params).2)
      fun s' _ => Run.gives_pure s' []
  | ifElse hkind hcontent _ _ => cases hbranches.symm.trans hcontent
  | repeating hkind ht =>
    rw [show h.kind = .repeating from hkind, hparam]
    show Run.Gives (Run.renderRepeating _ h.name h.param none params) s _
    exact Run.gives_renderRepeating h.name h.param params (hrenders.body htidy hs ht)
  | tabIndented hkind ht =>
    rw [show h.kind = .tabIndented from hkind, hparam]
    exact (hrenders.body htidy hs ht s .start params).2.map _
  | spaceIndented hkind ht =>
    rw [show h.kind = .spaceIndented from hkind, hparam]
    exact (hrenders.body htidy hs ht s .start params).2.map _

theorem gives_ifElse (hh : h.WellFormed) (hkind : h.kind = .conditional)
    {onTrue onFalse : Document} (htrue : onTrue.WellFormed) (hfalse : onFalse.WellFormed)
    (havoids : onTrue.Avoids h) (havoids' : onFalse.Avoids h)
    (hrenders : onTrue.Renders r origin meanings depth config)
    (hrenders' : onFalse.Renders r origin meanings depth config) {node : Node σ}
    (hnode : Represents s r config
      (h.opening.block (onTrue.source ++ h.elseTag ++ onFalse.source)) node)
    (params : Value) :
    Run.Gives (node.render (depth + 1) params) s
      (meanings.choose h params (onTrue.meaning meanings config params)
        (onFalse.meaning meanings config params)) := by
  have hbranches := branches_ifElse hh htrue hfalse havoids havoids'
  cases hnode with
  | onlyIf _ hcontent _ => cases hbranches.symm.trans hcontent
  | ifElse _ hcontent ht ht' =>
    have hcontents := hbranches.symm.trans hcontent
    obtain rfl : onTrue.source = _ := congrArg Prod.fst hcontents
    obtain rfl : onFalse.source = _ := Option.some.inj (congrArg Prod.snd hcontents)
    exact Run.gives_choose hmeanings htidy hs hdepth params (hh.path hkind)
      (fun s' hleads => (hrenders.body htidy hs ht s' hleads params).2)
      fun s' hleads => (hrenders'.body htidy hs ht' s' hleads params).2
  | repeating hother _ => cases hkind.symm.trans hother
  | tabIndented hother _ => cases hkind.symm.trans hother
  | spaceIndented hother _ => cases hkind.symm.trans hother

end Blocks

-- ---------------------------------------------------------------------------
-- The walk over a level
-- ---------------------------------------------------------------------------

/-- The memo of the passes has the inline tags that the walk knows, and no reference from a number
on. -/
structure Agree (number : Nat) (memo known : List (Tag × Text)) : Prop where
  inline : ∀ tag, (∀ other, tag ≠ referenceTo other) → memo.lookup tag = known.lookup tag
  fresh : ∀ other ≥ number, memo.lookup (referenceTo other) = none

theorem Agree.start (number : Nat) : Agree number [] [] where
  inline := fun _ _ => rfl
  fresh := fun _ _ => rfl

/-- A tag of the document is learned by both. -/
theorem Agree.learn {number : Nat} {memo known : List (Tag × Text)} (h : Agree number memo known)
    {tag : Tag} (htag : ∀ other, tag ≠ referenceTo other) (text : Text) :
    Agree number ((tag, text) :: memo) ((tag, text) :: known) where
  inline := by
    intro other hother
    rw [List.lookup_cons, List.lookup_cons, h.inline other hother]
  fresh := by
    intro other hother
    have hne : (referenceTo other == tag) = false := beq_eq_false_iff_ne.mpr (htag other).symm
    rw [List.lookup_cons, hne]
    exact h.fresh other hother

theorem referenceTo_injective {m n : Nat} (h : referenceTo m = referenceTo n) : m = n :=
  Block.reference_injective (List.cons.inj (congrArg Tag.path h)).2

/-- A reference is learned by the memo only. -/
theorem Agree.pass {number : Nat} {memo known : List (Tag × Text)} (h : Agree number memo known)
    (text : Text) : Agree (number + 1) ((referenceTo number, text) :: memo) known where
  inline := by
    intro other hother
    have hne : (other == referenceTo number) = false := beq_eq_false_iff_ne.mpr (hother number)
    rw [List.lookup_cons, hne]
    exact h.inline other hother
  fresh := by
    intro other hother
    have hne : (referenceTo other == referenceTo number) = false := by
      refine beq_eq_false_iff_ne.mpr fun heq => ?_
      have := referenceTo_injective heq
      omega
    rw [List.lookup_cons, hne]
    exact h.fresh other (Nat.le_of_succ_le hother)

theorem ne_referenceTo {tag : Tag} (hpath : ¬ "@block_".toList <+: tag.path) (number : Nat) :
    tag ≠ referenceTo number := by
  rintro rfl
  exact hpath (List.cons_prefix_cons.mpr ⟨rfl, Tidy.block_prefix_reference number⟩)

/-- The evaluation of the tags of a template. -/
abbrev evaluation (r : RegistryId) (depth : Nat) (config : Config) (params : Value) :
    Tag → Text → Run σ Text :=
  Run.evaluateTag (Run.lookup (Node.render depth) r params) config

end Document

/-- The course has the outcome, and no tag evaluates to a text with a brace. -/
structure Course.Gives (course : Course σ) (outcome : Except Failure Text) : Prop where
  outcome : course.outcome = outcome
  texts : ∀ e ∈ course.evaluations, ∀ value, e.outcome = .ok value → '{' ∉ value

theorem Course.gives_failed (tag : Tag) (indent : Text) (failure : Failure) (s : Store σ) :
    Course.Gives ⟨[⟨tag, indent, .error failure⟩], .error failure, s⟩ (.error failure) where
  outcome := rfl
  texts := by
    intro e he value hvalue
    rw [List.mem_singleton.mp he] at hvalue
    cases hvalue

theorem Course.Gives.after {course : Course σ} {outcome : Except Failure Text}
    (h : course.Gives outcome) {text : Text} (htext : '{' ∉ text) (tag : Tag) (indent : Text) :
    (course.after ⟨tag, indent, .ok text⟩).Gives outcome where
  outcome := h.outcome
  texts := by
    refine List.forall_mem_cons.mpr ⟨?_, h.texts⟩
    intro value hvalue
    cases hvalue
    exact htext

namespace Document

variable {depth : Nat} {config : Config} {s : Store σ} {h : Heading}

/-- In the stores that `origin` leads to, the walk over the pieces of a level goes as the walk over
the document does, from every place of the document on. -/
def Walks (r : RegistryId) (origin : Store σ) (meanings : Meanings) (depth : Nat)
    (config : Config) (doc : Document) : Prop :=
  ∀ (s : Store σ) (number : Nat) (params : Value) (memo known : List (Tag × Text)) (written : Text)
    (left : Nat), origin.LeadsTo r s → s.OnRecord r config number doc.blocks →
    Agree number memo known →
    (Piece.unknownTags (memo.map Prod.fst) (doc.pieces number)).length ≤ left →
    (∀ text ∈ (doc.walk meanings config params known written).texts, '{' ∉ text) →
    (Run.onePass config.maxPasses (evaluation r depth config params) left memo written
      (doc.pieces number) s).Gives (doc.walk meanings config params known written).outcome

section Walks

variable (htidy : Tidy r partials origin)

include htidy

/-- At a tag of the document the passes and the walk look into what they know, and learn the text
of a tag that they meet for the first time. -/
theorem Walks.behind_inline (hmeanings : meanings.Describe (origin.LeadsTo r) enough partials)
    (hdepth : enough ≤ depth) {tag : Tag} {rest : Document}
    (hrest : rest.Walks r origin meanings depth config) (hpath : ¬ "@block_".toList <+: tag.path) :
    (inline tag rest).Walks r origin meanings depth config := by
  intro s number params memo known written left hs hblocks hagree hleft htexts
  -- the tag is no reference, so the memo has it exactly if the walk knows it
  have hsame := hagree.inline tag (ne_referenceTo hpath)
  rw [pieces] at hleft ⊢
  rw [walk] at htexts ⊢
  cases hknown : known.lookup tag with
  | some text =>
    rw [hknown] at hsame htexts
    rw [Piece.unknownTags_known (Piece.mem_of_lookup_eq_some hsame)] at hleft
    rw [Run.onePass_known hsame]
    exact hrest s number params memo known (written ++ text) left hs hblocks hagree hleft htexts
  | none =>
    rw [hknown] at hsame htexts
    obtain ⟨s', hexec, hleads⟩ := Run.evaluateTag_meaning hmeanings htidy hs hdepth params config
      hpath (Text.trailingIndent written)
    simp only at htexts ⊢
    cases hvalue : meanings.tagText config params tag (Text.trailingIndent written) with
    | error failure =>
      rw [hvalue] at hexec
      rw [Run.onePass_error hsame hexec]
      exact Course.gives_failed ..
    | ok text =>
      rw [hvalue] at hexec htexts
      obtain ⟨left, rfl, hless⟩ := Piece.exists_left hsame hleft
      rw [Run.onePass_new hsame hexec]
      have hblocks' := hblocks.mono (hleads.follows (hs.tidy htidy)).grows
      have hwalk := hrest s' number params _ _ (written ++ text) left (hs.trans hleads)
        hblocks' (hagree.learn (ne_referenceTo hpath) text) hless
        fun other hother => htexts other (List.mem_cons_of_mem _ hother)
      exact hwalk.after (htexts text (List.mem_cons_self ..)) _ _

/-- Behind a block the walk goes on with the output of its node under the indent. -/
theorem Walks.behind_block {rest : Document} (hrest : rest.Walks r origin meanings depth config)
    {b : Block} {inner : Rendition} {number : Nat} {params : Value}
    {memo known : List (Tag × Text)} {written : Text} {left : Nat}
    (hs : origin.LeadsTo r s) (hblocks : s.OnRecord r config number (b :: rest.blocks))
    (hnode : ∀ s' node, origin.LeadsTo r s' → Represents s' r config b node →
      Run.Gives (node.render depth params) s' inner)
    (hagree : Agree number memo known)
    (hleft : (Piece.unknownTags (memo.map Prod.fst)
      (.tag (referenceTo number) :: rest.pieces (number + 1))).length ≤ left)
    (htexts : ∀ text ∈ (inner.placed written (rest.walk meanings config params known)).texts,
      '{' ∉ text) :
    (Run.onePass config.maxPasses (evaluation r depth config params) left memo written
      (.tag (referenceTo number) :: rest.pieces (number + 1)) s).Gives
        (inner.placed written (rest.walk meanings config params known)).outcome := by
  obtain ⟨kept, hrecord⟩ := hblocks 0 b rfl
  have htidy' := hs.tidy htidy
  obtain ⟨node, s', hleads, hrepresents, hexec⟩ := Run.evaluateTag_reference htidy' hrecord
    (Node.render depth) params config (Text.trailingIndent written)
  have hs' := hs.trans hleads
  have hleads' := hleads.trans (.render r depth node params s')
  -- each reference occurs once, so it is never in the memo
  have hnew := hagree.fresh number (Nat.le_refl _)
  rw [Rendition.placed, Rendition.andThen] at htexts ⊢
  cases houtcome : inner.outcome with
  | error failure =>
    rw [houtcome] at htexts
    have hfailed := hnode s' node hs' hrepresents htexts
    rw [hfailed, houtcome] at hexec
    rw [Run.onePass_error hnew hexec]
    exact Course.gives_failed ..
  | ok output =>
    rw [houtcome] at htexts
    simp only at htexts ⊢
    have hgives := hnode s' node hs' hrepresents fun text htext =>
      htexts text (List.mem_append_left _ htext)
    rw [hgives, houtcome] at hexec
    obtain ⟨left, rfl, hless⟩ := Piece.exists_left hnew hleft
    rw [Run.onePass_new hnew hexec]
    have hblocks' := hblocks.tail.mono (hleads'.follows htidy').grows
    have hwalk := hrest _ (number + 1) params _ known _ left (hs.trans hleads') hblocks'
      (hagree.pass (Text.indentContinuation (Text.trailingIndent written) output))
      hless fun text htext =>
        htexts text (List.mem_append_right _ (List.mem_cons_of_mem _ htext))
    exact hwalk.after (htexts _ (List.mem_append_right _ (List.mem_cons_self ..))) _ _

end Walks

/-- The tags of a level are its inline tags and a reference for each block. -/
theorem of_mem_pieces {tag : Tag} : ∀ {doc : Document} {number : Nat},
    .tag tag ∈ doc.pieces number →
      tag ∈ doc.tags ∨ ∃ i < doc.blocks.length, tag = referenceTo (number + i)
  | nil, _, hmem => by cases hmem
  | literal text rest, number, hmem => by
    rcases List.mem_append.mp hmem with hmem | hmem
    · obtain ⟨c, -, hc⟩ := List.mem_map.mp hmem
      cases hc
    · have hrest := of_mem_pieces hmem
      exact hrest
  | inline tag' rest, number, hmem => by
    rcases List.mem_cons.mp hmem with heq | hmem
    · cases heq
      exact .inl (List.mem_cons_self ..)
    · exact (of_mem_pieces hmem).imp (List.mem_cons_of_mem _) id
  | block _ _ rest, number, hmem | ifElse _ _ _ rest, number, hmem => by
    rcases List.mem_cons.mp hmem with heq | hmem
    · cases heq
      exact .inr ⟨0, Nat.zero_lt_succ _, rfl⟩
    · refine (of_mem_pieces hmem).imp id ?_
      rintro ⟨i, hi, rfl⟩
      exact ⟨i + 1, Nat.succ_lt_succ hi, by rw [Nat.add_right_comm, Nat.add_assoc]⟩

theorem length_unknownTags_le (doc : Document) (number : Nat) :
    (Piece.unknownTags [] (doc.pieces number)).length ≤ doc.levelSize := by
  have hsubset : Piece.unknownTags [] (doc.pieces number) ⊆ doc.tags.eraseDups ++
      (List.range doc.blocks.length).map fun i => referenceTo (number + i) := by
    intro tag htag
    rw [List.mem_append, List.mem_eraseDups]
    refine (of_mem_pieces (Piece.mem_of_mem_unknownTags htag)).imp id ?_
    rintro ⟨i, hi, rfl⟩
    exact List.mem_map_of_mem (List.mem_range.mpr hi)
  -- the first occurrences are distinct, so they are no more than the tags that there are
  have hnodup := (Piece.unknownTags_nodup (doc.pieces number) []).1
  have hlength := (hnodup.subperm hsubset).length_le
  rw [List.length_append, List.length_map, List.length_range] at hlength
  exact hlength

/-- A template renders to what its document means if the walk over its level does. -/
theorem Walks.renders (htidy : Tidy r partials origin) {doc : Document} (hdoc : doc.WellFormed)
    (hwalks : doc.Walks r origin meanings depth config)
    (hsize : doc.levelSize ≤ config.maxPasses) :
    doc.Renders r origin meanings depth config := by
  intro s t hs ht params htexts
  obtain ⟨number, hcontent, hblocks⟩ := ht.blocks
  rw [ofText_source hdoc] at hcontent hblocks
  have hwalk := hwalks s number params [] [] [] config.maxPasses hs hblocks (Agree.start number)
    (Nat.le_trans (length_unknownTags_le doc number) hsize) htexts
  rw [Run.renderTemplate, ht.registry_eq,
    Run.exec_bind_ok (hs.tidy htidy).requireOpen, Run.renderTags, ht.config_eq, hcontent,
    Run.settle_exec _ (Draft.sound_ofText _), Draft.text_ofText,
    Run.passes_textOf (plain_pieces hdoc number) hwalk.texts]
  exact hwalk.outcome

/-- **The walk over the pieces goes as the walk over the document.** The induction is on the
document; the bodies of a block are rendered one level of nesting further down, in templates of
their own, and the partials further down than all of them. -/
theorem walks (hmeanings : meanings.Describe (origin.LeadsTo r) enough partials)
    (htidy : Tidy r partials origin) : ∀ {doc : Document} {depth : Nat},
    doc.WellFormed → doc.nesting + enough ≤ depth →
      (∀ level ∈ doc.bodies, level.levelSize ≤ config.maxPasses) →
        doc.Walks r origin meanings depth config
  | nil, depth, _, _, _ => by
    intro s number params memo known written left hs hblocks hagree hleft htexts
    exact ⟨rfl, fun e he => by cases he⟩
  | literal text rest, depth, ⟨_, hrest⟩, hdepth, hsizes => by
    intro s number params memo known written left hs hblocks hagree hleft htexts
    rw [pieces, Piece.unknownTags_chars] at hleft
    rw [pieces, Run.onePass_chars]
    exact walks hmeanings htidy hrest hdepth hsizes s number params memo known (written ++ text)
      left hs hblocks hagree hleft htexts
  | inline tag rest, depth, ⟨⟨_, hpath⟩, hrest⟩, hdepth, hsizes =>
    (walks hmeanings htidy hrest hdepth hsizes).behind_inline htidy hmeanings (by omega) hpath
  | block h body rest, depth, ⟨⟨hh, havoids⟩, hbody, hrest⟩, hdepth, hsizes => by
    intro s number params memo known written left hs hblocks hagree hleft htexts
    rw [bodies, List.forall_mem_cons, List.forall_mem_append] at hsizes
    rw [nesting] at hdepth
    -- the body is rendered one level further down, with a memo and a limit of its own
    obtain ⟨below, rfl⟩ : ∃ below, depth = below + 1 := ⟨depth - 1, by omega⟩
    have hrenders : body.Renders r origin meanings below config :=
      (walks hmeanings htidy hbody (by omega) hsizes.2.1).renders htidy hbody hsizes.1
    exact (walks hmeanings htidy hrest (by omega) hsizes.2.2).behind_block htidy hs hblocks
      (fun s' node hs' hnode => gives_block hmeanings htidy hs' (by omega) hh hbody havoids
        hrenders hnode params) hagree hleft htexts
  | ifElse h onTrue onFalse rest, depth, ⟨⟨hh, hkind, havoids, havoids'⟩, htrue, hfalse, hrest⟩,
      hdepth, hsizes => by
    intro s number params memo known written left hs hblocks hagree hleft htexts
    rw [bodies, List.forall_mem_cons, List.forall_mem_cons, List.forall_mem_append,
      List.forall_mem_append] at hsizes
    rw [nesting] at hdepth
    obtain ⟨below, rfl⟩ : ∃ below, depth = below + 1 := ⟨depth - 1, by omega⟩
    have hrenders : onTrue.Renders r origin meanings below config :=
      (walks hmeanings htidy htrue (by omega) hsizes.2.2.1.1).renders htidy htrue hsizes.1
    have hrenders' : onFalse.Renders r origin meanings below config :=
      (walks hmeanings htidy hfalse (by omega) hsizes.2.2.1.2).renders htidy hfalse hsizes.2.1
    exact (walks hmeanings htidy hrest (by omega) hsizes.2.2.2).behind_block htidy hs hblocks
      (fun s' node hs' hnode => gives_ifElse hmeanings htidy hs' (by omega) hh hkind htrue hfalse
        havoids havoids' hrenders hrenders' hnode params) hagree hleft htexts

end Document

-- ---------------------------------------------------------------------------
-- Any order of compilations and renderings
-- ---------------------------------------------------------------------------

/-- The states that compiling documents against a registry and rendering the templates lead to, with
the templates made so far. A rendering may have any parameters, go to any depth, and fail. -/
inductive Reached (r : RegistryId) (start : Store σ) :
    Store σ → List (Document × Template) → Prop
  | start : Reached r start start []
  | compile {s s' : Store σ} {held : List (Document × Template)} {doc : Document} {t : Template}
      (ownsRegistry : Bool) (config : Config) : Reached r start s held → doc.WellFormed →
      (Run.compile r ownsRegistry config doc.source).exec s = (.ok t, s') →
      Reached r start s' ((doc, t) :: held)
  | render {s : Store σ} {held : List (Document × Template)} {doc : Document} {t : Template}
      (depth : Nat) (params : Value) : Reached r start s held → (doc, t) ∈ held →
      Reached r start ((Node.render depth (.template t) params).exec s).2 held

/-- A registry that holds nothing but the partials is tidy. -/
theorem Tidy.start
    (hnames : ∀ name entry, partials.get? name = some entry → ¬ "block_".toList <+: name)
    {s : Store σ} (h : s.registries[r]? = some ⟨partials, [], true⟩) : Tidy r partials s := by
  have hissued : ∀ number, s.issued? ⟨r, number⟩ = none := fun number => Store.issued?_eq h number
  constructor
  · exact ⟨_, h, rfl⟩
  · intro name _
    rw [Store.entries_eq h]
  · intro name entry hname hentry
    rw [Store.entries_eq h] at hentry
    exact absurd hname (hnames name entry hentry)
  · intro number hlt
    rw [Store.nextNumber_eq h] at hlt
    exact absurd hlt (Nat.not_lt_zero _)
  · intro number block config node hrecord
    rw [hissued] at hrecord
    cases hrecord
  · intro number block config node hrecord
    rw [hissued] at hrecord
    cases hrecord

/-- Every state that is reached is one that the first leads to, and each template is made from its
document. -/
theorem Reached.leads {start s : Store σ} {held : List (Document × Template)}
    (htidy : Tidy r partials start) (h : Reached r start s held) :
    start.LeadsTo r s ∧ ∀ doc t, (doc, t) ∈ held →
      doc.WellFormed ∧ Compiled s r t.config doc.source t := by
  induction h with
  | start => exact ⟨.start, fun doc t hmem => by cases hmem⟩
  | @compile s s' held doc t ownsRegistry config _ hdoc hexec ih =>
    obtain ⟨hleads, hheld⟩ := ih
    obtain ⟨t', s'', hexec', hfollows, hcompiled⟩ :=
      Run.compile_spec (hleads.tidy htidy) hdoc ownsRegistry config
    have hleads' := hleads.compile ownsRegistry config hdoc
    rw [hexec] at hexec' hleads'
    cases hexec'
    refine ⟨hleads', fun other t' hmem => ?_⟩
    rcases List.mem_cons.mp hmem with heq | hmem
    · cases heq
      exact ⟨hdoc, hcompiled.config_eq.symm ▸ hcompiled⟩
    · obtain ⟨hother, hcompiled'⟩ := hheld other t' hmem
      exact ⟨hother, hcompiled'.mono hfollows.grows⟩
  | @render s held doc t depth params _ hmem ih =>
    obtain ⟨hleads, hheld⟩ := ih
    have hrender := Store.LeadsTo.render r depth (.template t) params s
    refine ⟨hleads.trans hrender, fun other t' hmem' => ?_⟩
    obtain ⟨hother, hcompiled'⟩ := hheld other t' hmem'
    exact ⟨hother, hrender.compiled (hleads.tidy htidy) hcompiled'⟩

/-- A template made from a document renders to what the document means. -/
theorem render_meaning (hmeanings : meanings.Describe (origin.LeadsTo r) enough partials)
    (htidy : Tidy r partials origin) {s : Store σ} (hs : origin.LeadsTo r s) {doc : Document}
    {t : Template} {config : Config} (hdoc : doc.WellFormed)
    (ht : Compiled s r config doc.source t) (hfits : doc.Fits config.maxPasses) (params : Value)
    (htexts : ∀ text ∈ (doc.meaning meanings config params).texts, '{' ∉ text) {depth : Nat}
    (hdepth : doc.nesting + enough < depth) :
    ((Node.render depth (.template t) params).exec s).1 =
      (doc.meaning meanings config params).outcome := by
  obtain ⟨below, rfl⟩ : ∃ below, depth = below + 1 := ⟨depth - 1, by omega⟩
  have hsizes := List.forall_mem_cons.mp hfits
  have hrenders : doc.Renders r origin meanings below config :=
    (Document.walks hmeanings htidy hdoc (Nat.le_of_lt_succ hdepth) hsizes.2).renders htidy hdoc
      hsizes.1
  exact hrenders hs ht params htexts

/-- **Compiling and rendering is correct.** Let a registry hold partials that are without effects in
all stores that the first one leads to, and let documents have been compiled against it and
rendered, in any order. Then a document can be compiled, and it renders to what it means; and so
does every template that was made before. -/
theorem compile_and_render {start s : Store σ} {held : List (Document × Template)}
    (hmeanings : meanings.Describe (start.LeadsTo r) enough partials)
    (hstart : start.registries[r]? = some ⟨partials, [], true⟩)
    (hreached : Reached r start s held) :
    (∀ (doc : Document) (ownsRegistry : Bool) (config : Config), doc.WellFormed →
      ∃ t s', (Run.compile r ownsRegistry config doc.source).exec s = (.ok t, s') ∧
        (doc.Fits config.maxPasses → ∀ params,
          (∀ text ∈ (doc.meaning meanings config params).texts, '{' ∉ text) →
          ∀ depth > doc.nesting + enough, ((Node.render depth (.template t) params).exec s').1 =
            (doc.meaning meanings config params).outcome)) ∧
    ∀ doc t, (doc, t) ∈ held → doc.Fits t.config.maxPasses → ∀ params,
      (∀ text ∈ (doc.meaning meanings t.config params).texts, '{' ∉ text) →
      ∀ depth > doc.nesting + enough, ((Node.render depth (.template t) params).exec s).1 =
        (doc.meaning meanings t.config params).outcome := by
  have htidy : Tidy r partials start := .start hmeanings.names hstart
  obtain ⟨hleads, hheld⟩ := hreached.leads htidy
  constructor
  · intro doc ownsRegistry config hdoc
    obtain ⟨t, s', hexec, -, hcompiled⟩ :=
      Run.compile_spec (hleads.tidy htidy) hdoc ownsRegistry config
    have hleads' := hleads.compile ownsRegistry config hdoc
    rw [hexec] at hleads'
    refine ⟨t, s', hexec, fun hfits params htexts depth hdepth => ?_⟩
    exact render_meaning hmeanings htidy hleads' hdoc hcompiled hfits params htexts hdepth
  · intro doc t hmem hfits params htexts depth hdepth
    obtain ⟨hdoc, hcompiled⟩ := hheld doc t hmem
    exact render_meaning hmeanings htidy hleads hdoc hcompiled hfits params htexts hdepth

/-- A document with a partial, a loop, and a conditional with two bodies:
`Hi %{@g}: #{xs:x}?{x}${x} ?{!x}- ?{/x}#{/xs}`. -/
def Document.guests : Document :=
  .literal "Hi ".toList <| .inline ⟨false, "@g".toList, none⟩ <| .literal ": ".toList <|
    .block ⟨.repeating, false, "xs".toList, some "x".toList⟩
      (.ifElse ⟨.conditional, false, "x".toList, none⟩
        (.inline ⟨true, "x".toList, none⟩ <| .literal " ".toList .nil)
        (.literal "- ".toList .nil) .nil) .nil

/-- What stands behind the partial: `?{dear}dear all?{!dear}all?{/dear}`. -/
def Document.greeting : Document :=
  .ifElse ⟨.conditional, false, "dear".toList, none⟩ (.literal "dear all".toList .nil)
    (.literal "all".toList .nil) .nil

namespace Greeting

/-- The template that is made from it. -/
def template : Template := ⟨"%{@block_0}".toList, 0, true, .default⟩

def entry : Partial Unit := .block ⟨0, .template template⟩

/-- The store in which the template has been made. -/
def made : Store Unit :=
  ((Run.compile 0 true .default Document.greeting.source).exec
    ((Store.empty ()).newRegistry []).2).2

/-- The same with one registry more, which holds the template under `g`. -/
def store : Store Unit := (made.newRegistry [("g".toList, entry)]).2

theorem wellFormed : Document.greeting.WellFormed := by decide

/-- The registry of the template is tidy, and the template is made from the document. -/
theorem compiled : Tidy 0 [] store ∧
    Compiled store 0 .default Document.greeting.source template := by
  have htidy : Tidy 0 [] ((Store.empty ()).newRegistry []).2 := .start (by simp [Entries.get?]) rfl
  obtain ⟨t, s, hexec, hfollows, hcompiled⟩ := Run.compile_spec htidy wellFormed true .default
  have houtcome : ((Run.compile 0 true .default Document.greeting.source).exec
      ((Store.empty ()).newRegistry []).2).1 = .ok template := by decide +kernel
  rw [hexec] at houtcome
  obtain rfl : t = template := Except.ok.inj houtcome
  obtain rfl : s = made := congrArg Prod.snd hexec.symm
  have hnext : Follows 0 [] made store := hfollows.tidy.of_same rfl
  exact ⟨hnext.tidy, hcompiled.mono hnext.grows⟩

/-- Whichever body is chosen, it brings no brace. -/
theorem texts (params : Value) :
    ∀ text ∈ (Document.greeting.meaning (fun _ => none) .default params).texts, '{' ∉ text := by
  have hdear : ∀ text ∈ ["dear all".toList], '{' ∉ text := by decide
  have hplain : ∀ text ∈ ["all".toList], '{' ∉ text := by decide
  rw [Document.meaning, Document.greeting, Document.walk, Meanings.choose]
  split
  · next hfailed => cases hfailed
  · split
    · exact hdear
    · exact hplain

/-- The template has no effects, though it builds a block when it is first rendered. -/
theorem means : entry.Means (store.LeadsTo 1) 2 fun params =>
    (Document.greeting.meaning (fun _ => none) .default params).outcome.map fun text =>
      some (.string text) := by
  refine .block fun depth hdepth params s hs => ?_
  obtain ⟨htidy, hcompiled⟩ := compiled
  have hnothing : Meanings.Describe (s.LeadsTo 0) 0 (fun _ => none) [] := Meanings.describe_nil
  have hnesting : Document.greeting.nesting + 0 < depth := hdepth
  refine ⟨?_, hs.trans (.render 1 depth _ params s)⟩
  exact render_meaning hnothing (hs.tidy htidy) .start wellFormed (hs.compiled htidy hcompiled)
    (by decide) params (texts params) hnesting

end Greeting

/-- A partial is a template with a block. The document renders in the state that compiling it
leaves, where none of the blocks is built, and in every state that a rendering leaves after that. -/
theorem compile_and_render_guests :
    ∃ t s, (Run.compile 1 true .default Document.guests.source).exec Greeting.store =
        (.ok t, s) ∧
      ∀ depth params, ((Node.render 5 (.template t)
          (.object [("xs".toList, .array [.string "A".toList, .null, .string "B".toList])])).exec
            ((Node.render depth (.template t) params).exec s).2).1 =
        .ok "Hi all: A - B ".toList := by
  have hmeanings := Meanings.describe_singleton
    (show ¬ "block_".toList <+: "g".toList by decide) Greeting.means
  have hstart : Greeting.store.registries[1]? =
      some ⟨[("g".toList, Greeting.entry)], [], true⟩ := rfl
  have hdoc : Document.guests.WellFormed := by decide
  obtain ⟨t, s, hexec, -, hcompiled⟩ :=
    Run.compile_spec (.start hmeanings.names hstart) hdoc true .default
  refine ⟨t, s, hexec, fun depth params => ?_⟩
  have hreached : Reached 1 Greeting.store ((Node.render depth (.template t) params).exec s).2
      [(Document.guests, t)] :=
    .render depth params (.compile true .default .start hdoc hexec) (List.mem_singleton_self _)
  have hrender := (compile_and_render hmeanings hstart hreached).2 Document.guests t
    (List.mem_singleton_self _)
  rw [hcompiled.config_eq] at hrender
  exact hrender (by decide) _ (by decide) 5 (by decide)

end Templating
