import Templating.Proofs.Effects
import Templating.Proofs.Passes
import Templating.Proofs.Piece
import Templating.Proofs.Tidy

/-!
# Values that carry tags

A value may bring tags of its own, which later passes replace in their turn. A tag can so come back
after it was gone, and the tags in a text can become more from pass to pass. What never changes is
the text in which every tag is replaced by the expansion of its own text; and what always goes down
is the number of replacements that it takes to get there. As long as tags lead to tags of smaller
rank only, there is such a text, and enough passes come to it.

* `Piece.Expands` — pieces, their full expansion, and the replacements in it;
* `Piece.Expands.substitute` — a pass keeps the expansion and takes some of the replacements away;
* `Macros` — texts for tags, of which each leads to tags of smaller rank only;
* `Run.Steady` — a computation whose outcome depends on the registries only;
* `Run.renderTags_expand` — enough passes lead to the expansion, and fewer to their limit.
-/

namespace Templating

variable {σ α : Type}

-- ---------------------------------------------------------------------------
-- Expansion
-- ---------------------------------------------------------------------------

namespace Piece

/-- The output in which every tag has been replaced by the expansion of its text, and how many
replacements that takes if each is made on its own. -/
inductive Expands (texts : Tag → Text) : List Piece → Text → Nat → Prop
  | nil : Expands texts [] [] 0
  | char {ps : List Piece} {output : Text} {size : Nat} (c : Char) :
      Expands texts ps output size → Expands texts (char c :: ps) (c :: output) size
  | tag {t : Tag} {ps : List Piece} {inner output : Text} {innerSize size : Nat} :
      Expands texts (ofText (texts t)) inner innerSize → Expands texts ps output size →
      Expands texts (tag t :: ps) (inner ++ output) (innerSize + 1 + size)

/-- The pieces that come in place of a piece when a tag is replaced by pieces. -/
def substitute (t : Tag) (value : List Piece) : Piece → List Piece
  | char c => [char c]
  | tag t' => if t' = t then value else [tag t']

theorem textOf_substitute (t : Tag) (value : List Piece) : ∀ ps : List Piece,
    textOf (ps.flatMap (substitute t value)) = textOf (ps.flatMap (fill t (textOf value)))
  | [] => rfl
  | p :: ps => by
    have hpiece : textOf (substitute t value p) = textOf (fill t (textOf value) p) := by
      cases p with
      | char c => rfl
      | tag t' =>
        rw [substitute, fill]
        split
        · rw [textOf_chars]
        · rfl
    rw [List.flatMap_cons, List.flatMap_cons, textOf_append, textOf_append, hpiece,
      textOf_substitute t value ps]

/-- A substitution leaves pieces of before and brings those of the value. -/
theorem mem_substitute {t : Tag} {value ps : List Piece} {q : Piece}
    (hq : q ∈ ps.flatMap (substitute t value)) : q ∈ ps ∨ q ∈ value := by
  obtain ⟨p, hp, hq⟩ := List.mem_flatMap.mp hq
  cases p with
  | char c =>
    rw [substitute, List.mem_singleton] at hq
    exact .inl (hq ▸ hp)
  | tag t' =>
    rw [substitute] at hq
    split at hq
    · exact .inr hq
    · rw [List.mem_singleton] at hq
      exact .inl (hq ▸ hp)

/-- Plain pieces are a text without braces, or a tag stands behind such a text. -/
theorem exists_first_tag : ∀ {ps : List Piece}, (∀ p ∈ ps, p.Plain) →
    (∃ u, ps = chars u ∧ '{' ∉ u) ∨
      ∃ (u : Text) (t : Tag) (rest : List Piece), ps = chars u ++ tag t :: rest ∧ '{' ∉ u
  | [], _ => .inl ⟨[], rfl, List.not_mem_nil⟩
  | tag t :: rest, _ => .inr ⟨[], t, rest, rfl, List.not_mem_nil⟩
  | char c :: ps, hps => by
    obtain ⟨hc, hrest⟩ := List.forall_mem_cons.mp hps
    have hcons : ∀ {u : Text}, '{' ∉ u → '{' ∉ c :: u := fun hu hmem =>
      (List.mem_cons.mp hmem).elim (fun heq => hc heq.symm) hu
    rcases exists_first_tag hrest with ⟨u, rfl, hu⟩ | ⟨u, t, rest, rfl, hu⟩
    · exact .inl ⟨c :: u, rfl, hcons hu⟩
    · exact .inr ⟨c :: u, t, rest, rfl, hcons hu⟩

namespace Expands

variable {texts : Tag → Text} {ps qs : List Piece} {output output' : Text} {size size' : Nat}

theorem append (h : Expands texts ps output size) (h' : Expands texts qs output' size') :
    Expands texts (ps ++ qs) (output ++ output') (size + size') := by
  induction h with
  | nil => rwa [List.nil_append, List.nil_append, Nat.zero_add]
  | char c _ ih => exact ih.char c
  | tag hinner _ _ ih =>
    rw [List.append_assoc, Nat.add_assoc]
    exact hinner.tag ih

theorem chars : ∀ u : Text, Expands texts (Piece.chars u) u 0
  | [] => .nil
  | c :: u => (chars u).char c

/-- There is one expansion at most. -/
theorem unique (h : Expands texts ps output size) (h' : Expands texts ps output' size') :
    output = output' ∧ size = size' := by
  induction h generalizing output' size' with
  | nil =>
    cases h'
    exact ⟨rfl, rfl⟩
  | char c _ ih =>
    cases h' with
    | char _ hrest =>
      obtain ⟨rfl, rfl⟩ := ih hrest
      exact ⟨rfl, rfl⟩
  | tag _ _ ihinner ihrest =>
    cases h' with
    | tag hinner hrest =>
      obtain ⟨rfl, rfl⟩ := ihinner hinner
      obtain ⟨rfl, rfl⟩ := ihrest hrest
      exact ⟨rfl, rfl⟩

/-- Pieces have an expansion if the texts of their tags do. -/
theorem of_tags : ∀ {ps : List Piece},
    (∀ t, .tag t ∈ ps → ∃ inner size, Expands texts (ofText (texts t)) inner size) →
      ∃ output size, Expands texts ps output size
  | [], _ => ⟨[], 0, .nil⟩
  | p :: ps, h => by
    obtain ⟨output, size, hrest⟩ := of_tags fun t ht => h t (List.mem_cons_of_mem p ht)
    cases p with
    | char c => exact ⟨c :: output, size, hrest.char c⟩
    | tag t =>
      obtain ⟨inner, innerSize, hinner⟩ := h t (List.mem_cons_self ..)
      exact ⟨inner ++ output, innerSize + 1 + size, hinner.tag hrest⟩

/-- Replacing a tag by its text keeps the expansion and saves a replacement wherever the tag
stands. -/
theorem substitute (h : Expands texts ps output size) (t : Tag) :
    ∃ size', Expands texts (ps.flatMap (Piece.substitute t (ofText (texts t)))) output size' ∧
      size' + ps.count (.tag t) = size := by
  induction h with
  | nil => exact ⟨0, .nil, rfl⟩
  | @char ps output size c _ ih =>
    obtain ⟨size', hrest, hsize⟩ := ih
    refine ⟨size', hrest.char c, ?_⟩
    rw [List.count_cons_of_ne (by simp), hsize]
  | @tag t' ps inner output innerSize size hinner _ _ ih =>
    obtain ⟨size', hrest, hsize⟩ := ih
    rw [List.flatMap_cons, Piece.substitute]
    by_cases heq : t' = t
    · subst heq
      refine ⟨innerSize + size', ?_, ?_⟩
      · rw [if_pos rfl]
        exact hinner.append hrest
      · rw [List.count_cons_self]
        omega
    · refine ⟨innerSize + 1 + size', ?_, ?_⟩
      · rw [if_neg heq]
        exact hinner.tag hrest
      · rw [List.count_cons_of_ne (by simpa using heq)]
        omega

end Expands

end Piece

-- ---------------------------------------------------------------------------
-- Ranks
-- ---------------------------------------------------------------------------

/-- The tags that a text leads to: those in it and, for each of them, those in its text. -/
inductive Reaches (texts : Tag → Text) (content : Text) : Tag → Prop
  | content {t : Tag} : .tag t ∈ Piece.ofText content → Reaches texts content t
  | text {t t' : Tag} : Reaches texts content t → .tag t' ∈ Piece.ofText (texts t) →
      Reaches texts content t'

/-- In the text and in those of all tags that it leads to, every brace opens a tag, and tags lead to
tags of smaller rank only. -/
structure Macros (texts : Tag → Text) (rank : Tag → Nat) (content : Text) : Prop where
  tagged : Piece.Tagged content
  tagged_text : ∀ t, Reaches texts content t → Piece.Tagged (texts t)
  ranked : ∀ t t', Reaches texts content t → .tag t' ∈ Piece.ofText (texts t) → rank t' < rank t

namespace Macros

variable {texts : Tag → Text} {rank : Tag → Nat} {content : Text}

/-- No tag occurs in its own text. -/
theorem not_infix (h : Macros texts rank content) {t : Tag} (ht : Reaches texts content t)
    (hplain : t.Plain) : ¬ t.text <:+: texts t := by
  intro hinfix
  obtain ⟨htext, hpieces⟩ := Piece.textOf_ofText (h.tagged_text t ht)
  rw [← htext] at hinfix
  have hmem := Piece.mem_of_infix_textOf hplain hpieces hinfix
  exact Nat.lt_irrefl _ (h.ranked t t ht hmem)

/-- The text of a tag has an expansion. The induction is on the rank. -/
theorem exists_expands_text (h : Macros texts rank content) {t : Tag}
    (ht : Reaches texts content t) :
    ∃ output size, Piece.Expands texts (Piece.ofText (texts t)) output size := by
  induction hrank : rank t using Nat.strongRecOn generalizing t with
  | ind k ih =>
    refine Piece.Expands.of_tags fun t' ht' => ?_
    have hless : rank t' < k := hrank ▸ h.ranked t t' ht ht'
    exact ih (rank t') hless (ht.text ht') rfl

theorem exists_expands (h : Macros texts rank content) :
    ∃ output size, Piece.Expands texts (Piece.ofText content) output size :=
  Piece.Expands.of_tags fun _ ht => h.exists_expands_text (.content ht)

end Macros

-- ---------------------------------------------------------------------------
-- Passes
-- ---------------------------------------------------------------------------

namespace Run

/-- **Passes come to the expansion.** Let the tags that a text leads to become their texts, in every
store that `holds` allows and behind every indent. Then there is a number of passes that is enough,
and with fewer passes the limit is the outcome. The induction is on the replacements. -/
theorem passes_expand {texts : Tag → Text} {rank : Tag → Nat} {content : Text}
    {evaluate : Tag → Text → Run σ Text} {holds : Store σ → Prop}
    (hmacros : Macros texts rank content)
    (heval : ∀ t, Reaches texts content t → ∀ before s, holds s → ∃ s',
      (evaluate t (Text.trailingIndent before)).exec s = (.ok (texts t), s') ∧ holds s')
    (size : Nat) : ∀ {ps : List Piece} {output : Text}, Piece.Expands texts ps output size →
      (∀ p ∈ ps, p.Plain) → (∀ t, .tag t ∈ ps → Reaches texts content t) →
      ∃ enough ≤ size, ∀ maxPasses left s, holds s →
        (passes maxPasses evaluate left (Piece.textOf ps) s).outcome =
          if enough ≤ left then .ok output else .error (.error (.unsettled maxPasses)) := by
  induction size using Nat.strongRecOn with
  | ind size ih =>
    intro ps output hexpands hplain hreaches
    rcases Piece.exists_first_tag hplain with ⟨u, rfl, hu⟩ | ⟨u, t, rest, rfl, hu⟩
    · -- no tag is left: the text is the output
      obtain ⟨rfl, rfl⟩ := hexpands.unique (.chars u)
      refine ⟨0, Nat.le_refl 0, fun maxPasses left s _ => ?_⟩
      rw [Piece.textOf_chars, passes_done (Piece.find?_eq_none_of_brace hu),
        if_pos (Nat.zero_le left)]
    · have hmem : .tag t ∈ Piece.chars u ++ .tag t :: rest := by simp
      have ht := hreaches t hmem
      have htag : t.Plain := hplain _ hmem
      obtain ⟨htext, htexts⟩ := Piece.textOf_ofText (hmacros.tagged_text t ht)
      have hself := hmacros.not_infix ht htag
      have hrest : ∀ p ∈ rest, p.Plain := fun p hp => hplain p (by simp [hp])
      have hfound : Tag.find? (Piece.textOf (Piece.chars u ++ .tag t :: rest)) =
          some ⟨u, t, Piece.textOf rest⟩ := by
        rw [Piece.textOf_append, Piece.textOf_chars, Piece.textOf_cons]
        exact Piece.find?_textOf hu htag hrest
      -- what is left after the pass has the same expansion, with fewer replacements
      obtain ⟨size', hexpands', hsize⟩ := hexpands.substitute t
      have hpass := (Piece.replaceAll_textOf htag (texts t) hplain).trans
        (by rw [Piece.textOf_substitute, htext] :
          _ = Piece.textOf ((Piece.chars u ++ .tag t :: rest).flatMap
            (Piece.substitute t (Piece.ofText (texts t)))))
      have hless : size' < size := by
        have := List.count_pos_iff.mpr hmem
        omega
      obtain ⟨enough, henough, houtcome⟩ := ih size' hless hexpands'
        (fun p hp => (Piece.mem_substitute hp).elim (hplain p) (htexts p))
        (fun t' ht' => (Piece.mem_substitute ht').elim (hreaches t') ht.text)
      refine ⟨enough + 1, by omega, fun maxPasses left s hs => ?_⟩
      obtain ⟨s', hexec, hs'⟩ := heval t ht u s hs
      cases left with
      | zero =>
        rw [passes_unsettled hfound hexec, if_neg (Nat.not_succ_le_zero enough)]
      | succ left =>
        rw [passes_replace hfound hexec hself, hpass, Course.after_outcome,
          houtcome maxPasses left s' hs']
        simp only [Nat.add_le_add_iff_right]

-- ---------------------------------------------------------------------------
-- Registries without effects
-- ---------------------------------------------------------------------------

/-- The outcome of the computation is the same in every store with the registries of this one, and
it leaves them as they are. -/
def Steady (s : Store σ) (x : Run σ α) : Prop :=
  ∃ outcome, ∀ s' : Store σ, s'.registries = s.registries →
    ∃ s'', x.exec s' = (outcome, s'') ∧ s''.registries = s.registries

variable {r : RegistryId} {s : Store σ}

/-- Looking up a path is steady if all partials are without effects: it records an event at most. -/
theorem steady_lookup {depth : Nat}
    (hpure : ∀ name entry, (s.entries r).get? name = some entry →
      ∃ f, entry.Means (·.registries = s.registries) depth f)
    (params : Value) (path : Text) : Steady s (lookup (Node.render depth) r params path) := by
  unfold lookup
  split
  · rename_i reference
    cases hentry : (s.entries r).get? (splitReference reference).1 with
    | none =>
      refine ⟨.ok none, fun s' hsame => ⟨s'.emit (.notRegistered (splitReference reference).1), ?_,
        hsame⟩⟩
      have hnone : (s'.entries r).get? (splitReference reference).1 = none := by
        rw [Store.entries, hsame]
        exact hentry
      rw [exec_bind_ok (exec_get s')]
      simp only [hnone]
      rfl
    | some entry =>
      obtain ⟨f, hf⟩ := hpure _ entry hentry
      have hsome : ∀ s' : Store σ, s'.registries = s.registries →
          (s'.entries r).get? (splitReference reference).1 = some entry := by
        intro s' hsame
        rw [Store.entries, hsame]
        exact hentry
      cases hvalue : f params with
      | error failure =>
        refine ⟨.error failure, fun s' hsame => ?_⟩
        obtain ⟨s'', hresolve, hsame'⟩ := hf.resolve (Nat.le_refl depth) params hsame
        rw [hvalue] at hresolve
        refine ⟨s'', ?_, hsame'⟩
        rw [exec_bind_ok (exec_get s')]
        simp only [hsome s' hsame]
        exact exec_bind_error hresolve _
      | ok value =>
        refine ⟨.ok ((splitReference reference).2.elim value fun rest =>
          value.bind (Value.resolve? rest)), fun s' hsame => ?_⟩
        obtain ⟨s'', hresolve, hsame'⟩ := hf.resolve (Nat.le_refl depth) params hsame
        rw [hvalue] at hresolve
        refine ⟨s'', ?_, hsame'⟩
        rw [exec_bind_ok (exec_get s')]
        simp only [hsome s' hsame]
        rw [exec_bind_ok hresolve]
        cases (splitReference reference).2 with
        | none => rfl
        | some rest => rfl
  · exact ⟨.ok (Value.resolve? path params), fun s' hsame => ⟨s', rfl, hsame⟩⟩

theorem steady_evaluateTag {lookup : Text → Run σ (Option Value)} {tag : Tag}
    (h : Steady s (lookup tag.path)) (config : Config) (indent : Text) :
    Steady s (evaluateTag lookup config tag indent) := by
  obtain ⟨outcome, houtcome⟩ := h
  cases outcome with
  | error failure =>
    refine ⟨.error failure, fun s' hsame => ?_⟩
    obtain ⟨s'', hexec, hsame'⟩ := houtcome s' hsame
    exact ⟨s'', exec_bind_error hexec _, hsame'⟩
  | ok value =>
    refine ⟨tagText config tag indent value, fun s' hsame => ?_⟩
    obtain ⟨s'', hexec, hsame'⟩ := houtcome s' hsame
    exact ⟨s'', evaluateTag_exec hexec config indent, hsame'⟩

/-- **Values that carry tags expand like macros.** Let a registry hold partials that are without
effects in the stores with the same registries, and let the tags that a content leads to become
texts, wherever they stand, in which every brace opens a tag of smaller rank. Then there is a number
of passes from which on the content renders to its full expansion. With fewer passes it fails with
the limit, and never because a tag expands to itself. -/
theorem renderTags_expand {texts : Tag → Text} {rank : Tag → Nat} {content : Text} {config : Config}
    {params : Value} {depth : Nat}
    (hpure : ∀ name entry, (s.entries r).get? name = some entry →
      ∃ f, entry.Means (·.registries = s.registries) depth f)
    (hmacros : Macros texts rank content)
    (heval : ∀ t, Reaches texts content t → ∀ before,
      ((evaluateTag (lookup (Node.render depth) r params) config t
        (Text.trailingIndent before)).exec s).1 = .ok (texts t)) :
    ∃ output size enough, Piece.Expands texts (Piece.ofText content) output size ∧
      enough ≤ size ∧ ∀ maxPasses,
        ((renderTags (Node.render depth) r { config with maxPasses := maxPasses } content
          params).exec s).1 =
            if enough ≤ maxPasses then .ok output else .error (.error (.unsettled maxPasses)) := by
  obtain ⟨output, size, hexpands⟩ := hmacros.exists_expands
  obtain ⟨htext, hplain⟩ := Piece.textOf_ofText hmacros.tagged
  -- the texts of the tags stay what they are from pass to pass
  have hsteady : ∀ t, Reaches texts content t → ∀ before s', s'.registries = s.registries →
      ∃ s'', (evaluateTag (lookup (Node.render depth) r params) config t
        (Text.trailingIndent before)).exec s' = (.ok (texts t), s'') ∧
          s''.registries = s.registries := by
    intro t ht before s' hsame
    obtain ⟨outcome, houtcome⟩ :=
      steady_evaluateTag (steady_lookup hpure params t.path) config (Text.trailingIndent before)
    obtain ⟨s₀, hexec, -⟩ := houtcome s rfl
    have hvalue := heval t ht before
    rw [hexec] at hvalue
    rw [← show outcome = .ok (texts t) from hvalue]
    exact houtcome s' hsame
  obtain ⟨enough, henough, houtcome⟩ := passes_expand hmacros hsteady size hexpands hplain
    fun t ht => .content ht
  refine ⟨output, size, enough, hexpands, henough, fun maxPasses => ?_⟩
  rw [renderTags, settle_exec _ (Draft.sound_ofText content), Draft.text_ofText]
  have hpasses := houtcome maxPasses maxPasses s rfl
  rw [htext] at hpasses
  exact hpasses

end Run

namespace Again

/-- A tag with a parameter, and a tag with a function that brings that tag. -/
def parameter : Tag := ⟨false, "c".toList, none⟩

def call : Tag := ⟨false, "@f".toList, none⟩

def texts (tag : Tag) : Text := if tag = call then parameter.text else "x".toList

def rank (tag : Tag) : Nat := if tag = call then 1 else 0

def params : Value := .object [("c".toList, .string "x".toList)]

def function : Partial Unit :=
  .function (fun _ _ => .value (.string "%{c}".toList)) (fun _ caller => caller) ⟨[], []⟩

def store : Store Unit := ((Store.empty ()).newRegistry [("f".toList, function)]).2

theorem plain_content : ∀ p ∈ [Piece.tag parameter, .char ' ', .tag call], p.Plain := by decide

theorem plain_parameter : ∀ p ∈ [Piece.char 'x'], p.Plain := by decide

theorem plain_call : ∀ p ∈ [Piece.tag parameter], p.Plain := by decide

theorem ofText_content :
    Piece.ofText "%{c} %{@f}".toList = [.tag parameter, .char ' ', .tag call] :=
  Piece.ofText_textOf plain_content

theorem ofText_parameter : Piece.ofText (texts parameter) = [.char 'x'] :=
  Piece.ofText_textOf plain_parameter

theorem ofText_call : Piece.ofText (texts call) = [.tag parameter] :=
  Piece.ofText_textOf plain_call

theorem reaches {tag : Tag} (h : Reaches texts "%{c} %{@f}".toList tag) :
    tag = parameter ∨ tag = call := by
  induction h with
  | content hmem =>
    rw [ofText_content] at hmem
    simpa using hmem
  | text _ hmem ih =>
    rcases ih with rfl | rfl
    · rw [ofText_parameter] at hmem
      simp at hmem
    · rw [ofText_call] at hmem
      exact .inl (by simpa using hmem)

theorem macros : Macros texts rank "%{c} %{@f}".toList where
  tagged := Piece.tagged_textOf plain_content
  tagged_text tag htag := by
    rcases reaches htag with rfl | rfl
    · exact Piece.tagged_textOf plain_parameter
    · exact Piece.tagged_textOf plain_call
  ranked tag tag' htag hmem := by
    rcases reaches htag with rfl | rfl
    · rw [ofText_parameter] at hmem
      simp at hmem
    · rw [ofText_call] at hmem
      obtain rfl : tag' = parameter := by simpa using hmem
      decide

/-- Three replacements lead to the expansion. -/
theorem expands : Piece.Expands texts (Piece.ofText "%{c} %{@f}".toList) "x x".toList 3 := by
  have hparameter : Piece.Expands texts (Piece.ofText (texts parameter)) "x".toList 0 := by
    rw [ofText_parameter]
    exact .chars "x".toList
  have hcall : Piece.Expands texts (Piece.ofText (texts call)) "x".toList 1 := by
    rw [ofText_call]
    exact .tag hparameter .nil
  rw [ofText_content]
  exact .tag hparameter (.char ' ' (.tag hcall .nil))

theorem means {name : Text} {entry : Partial Unit}
    (h : (store.entries 0).get? name = some entry) :
    ∃ f, entry.Means (·.registries = store.registries) 0 f := by
  rw [show store.entries 0 = [("f".toList, function)] from rfl, Entries.get?_singleton] at h
  split at h
  · cases h
    exact ⟨_, .function (fun _ _ => rfl) fun _ _ => .value _⟩
  · cases h

theorem evaluates {tag : Tag} (h : Reaches texts "%{c} %{@f}".toList tag) (before : Text) :
    ((Run.evaluateTag (Run.lookup (Node.render 0) 0 params) .default tag
      (Text.trailingIndent before)).exec store).1 = .ok (texts tag) := by
  rcases reaches h with rfl | rfl
  · rfl
  · rfl

end Again

/-- The value of `@f` brings back the tag that the first pass replaced, so there are three passes:
`%{c} %{@f}`, `x %{@f}`, `x %{c}`, `x x`. -/
theorem Run.renderTags_expand_again :
    ∃ enough ≤ 3, ∀ maxPasses,
      ((renderTags (Node.render 0) 0 { Config.default with maxPasses := maxPasses }
        "%{c} %{@f}".toList Again.params).exec Again.store).1 =
          if enough ≤ maxPasses then .ok "x x".toList
          else .error (.error (.unsettled maxPasses)) := by
  obtain ⟨output, size, enough, houtput, henough, houtcome⟩ :=
    renderTags_expand (fun _ _ => Again.means) Again.macros fun _ h => Again.evaluates h
  obtain ⟨rfl, rfl⟩ := houtput.unique Again.expands
  exact ⟨enough, henough, houtcome⟩

end Templating
