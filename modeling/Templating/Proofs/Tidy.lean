import Templating.Proofs.Document
import Templating.Rendering

/-!
# Tidy registries

What is true of a registry as long as only documents are compiled against it: its entries are the
partials of the caller and the blocks issued in it, each block is one of a document, and a node that
was made for a block is the node that its block asks for. Blocks are numbered as they are met, so
the numbers tell nothing; what ties a template to its blocks is that the records of issued blocks
never change but for their nodes.

* `Partial.Means` — a partial whose value is a function of the parameters, in the stores of a set;
* `Store.Extends`, `Store.OnRecord` — a later store has the blocks of an earlier one;
* `Compiled`, `Represents` — which text a template was made from, and which block a node;
* `Tidy` — the invariant of a registry;
* `Run.compile_spec`, `Run.build_spec` — compiling and building succeed and keep it.
-/

namespace Templating

variable {σ : Type}

-- ---------------------------------------------------------------------------
-- Partials without effects
-- ---------------------------------------------------------------------------

/-- A partial without effects, and its value as a function of the parameters: a value, a function
that leaves the state of the caller alone and does not look at it, or a node. In the stores of `K`,
and at every depth from `enough` on, the node renders to what the parameters make of it and leaves a
store of `K`. -/
inductive Partial.Means (K : Store σ → Prop) (enough : Nat) :
    Partial σ → (Value → Except Failure (Option Value)) → Prop
  | value (value : Value) : Means K enough (.value value) fun _ => .ok (some value)
  | function {call : Value → σ → Partial σ} {after : Value → σ → σ} {holdings : Holdings}
      {f : Value → Value → Except Failure (Option Value)}
      (hafter : ∀ params caller, after params caller = caller)
      (hcall : ∀ params caller, Means K enough (call params caller) (f params)) :
      Means K enough (.function call after holdings) fun params => f params params
  | block {node : Shared (Node σ)} {f : Value → Except Failure Text}
      (hnode : ∀ depth ≥ enough, ∀ params s, K s →
        ((node.value.render depth params).exec s).1 = f params ∧
          K ((node.value.render depth params).exec s).2) :
      Means K enough (.block node) fun params => (f params).map fun text => some (.string text)

/-- What partials stand for, by their names. -/
abbrev Meanings := Text → Option (Value → Except Failure (Option Value))

variable {K : Store σ → Prop} {enough : Nat}

/-- The partials are without effects, the meanings are theirs, and none has the name of a block. -/
structure Meanings.Describe (K : Store σ → Prop) (enough : Nat) (meanings : Meanings)
    (partials : Entries (Partial σ)) : Prop where
  names : ∀ name entry, partials.get? name = some entry → ¬ "block_".toList <+: name
  registered : ∀ name entry, partials.get? name = some entry →
    ∃ f, meanings name = some f ∧ entry.Means K enough f
  absent : ∀ name, partials.get? name = none → meanings name = none

/-- A registry that holds nothing. -/
theorem Meanings.describe_nil : Describe K enough (fun _ => none) [] where
  names := fun _ _ hget => by cases hget
  registered := fun _ _ hget => by cases hget
  absent := fun _ _ => rfl

/-- A registry that holds one partial. -/
theorem Meanings.describe_singleton {name : Text} (hname : ¬ "block_".toList <+: name)
    {entry : Partial σ} {f : Value → Except Failure (Option Value)}
    (hentry : entry.Means K enough f) :
    Describe K enough (fun other => if other = name then some f else none) [(name, entry)] := by
  constructor
  · intro other entry' hget
    rw [Entries.get?_singleton] at hget
    split at hget
    · next heq => exact heq ▸ hname
    · cases hget
  · intro other entry' hget
    rw [Entries.get?_singleton] at hget
    split at hget
    · next heq =>
      cases hget
      exact ⟨f, if_pos heq.symm, hentry⟩
    · cases hget
  · intro other hget
    rw [Entries.get?_singleton] at hget
    split at hget
    · cases hget
    · next hne => exact if_neg fun heq => hne heq.symm

theorem Partial.Means.resolve {entry : Partial σ} {f : Value → Except Failure (Option Value)}
    (h : entry.Means K enough f) {depth : Nat} (hdepth : enough ≤ depth) (params : Value)
    {s : Store σ} (hs : K s) :
    ∃ s', (Run.resolvePartial (Node.render depth) params entry).exec s = (f params, s') ∧
      K s' := by
  induction h generalizing s with
  | value value => exact ⟨s, rfl, hs⟩
  | function hafter _ ih =>
    rw [Run.resolvePartial, Run.exec_bind_ok (Run.exec_get s),
      Run.exec_bind_ok (Run.exec_set ..), hafter]
    exact ih params s.caller hs
  | @block node f hnode =>
    obtain ⟨houtcome, hleft⟩ := hnode depth hdepth params s hs
    refine ⟨_, ?_, hleft⟩
    show _ = ((f params).map _, _)
    rw [Run.resolvePartial, Run.exec_bind, ← houtcome]
    rcases (node.value.render depth params).exec s with ⟨outcome, s'⟩
    cases outcome with
    | ok text => rfl
    | error failure => rfl

-- ---------------------------------------------------------------------------
-- Records that stay
-- ---------------------------------------------------------------------------

/-- The blocks of a registry that are on record in the first store are on record in the second, with
the same options. -/
def Store.Extends (r : RegistryId) (s s' : Store σ) : Prop :=
  ∀ number block config node, s.issued? ⟨r, number⟩ = some ⟨block, config, node⟩ →
    ∃ node', s'.issued? ⟨r, number⟩ = some ⟨block, config, node'⟩

theorem Store.Extends.refl (r : RegistryId) (s : Store σ) : s.Extends r s :=
  fun _ _ _ node h => ⟨node, h⟩

theorem Store.Extends.trans {r : RegistryId} {s s' s'' : Store σ} (h : Store.Extends r s s')
    (h' : Store.Extends r s' s'') : Store.Extends r s s'' := by
  intro number block config node hissued
  obtain ⟨node', hissued'⟩ := h number block config node hissued
  exact h' number block config node' hissued'

/-- The blocks are on record under the numbers from one on. -/
def Store.OnRecord (s : Store σ) (r : RegistryId) (config : Config) (number : Nat)
    (blocks : List Block) : Prop :=
  ∀ i b, blocks[i]? = some b → ∃ node, s.issued? ⟨r, number + i⟩ = some ⟨b, config, node⟩

theorem Store.OnRecord.mono {s s' : Store σ} {r : RegistryId} {config : Config} {number : Nat}
    {blocks : List Block} (h : s.OnRecord r config number blocks) (hs : s.Extends r s') :
    s'.OnRecord r config number blocks := by
  intro i b hb
  obtain ⟨node, hissued⟩ := h i b hb
  exact hs _ _ _ _ hissued

theorem Store.OnRecord.tail {s : Store σ} {r : RegistryId} {config : Config} {number : Nat}
    {b : Block} {blocks : List Block} (h : s.OnRecord r config number (b :: blocks)) :
    s.OnRecord r config (number + 1) blocks := by
  intro i b' hb
  obtain ⟨node, hissued⟩ := h (i + 1) b' hb
  rw [Nat.add_comm i 1, ← Nat.add_assoc] at hissued
  exact ⟨node, hissued⟩

/-- The template was made from the text: its content is what extraction leaves of it, and the blocks
that were taken out are on record under the numbers that it refers to. -/
structure Compiled (s : Store σ) (r : RegistryId) (config : Config) (text : Text) (t : Template) :
    Prop where
  registry_eq : t.registry = r
  config_eq : t.config = config
  blocks : ∃ number, t.content = (Extraction.ofText number text).residual ∧
    s.OnRecord r config number (Extraction.ofText number text).blocks

theorem Compiled.mono {s s' : Store σ} {r : RegistryId} {config : Config} {text : Text}
    {t : Template} (h : Compiled s r config text t) (hs : s.Extends r s') :
    Compiled s' r config text t where
  registry_eq := h.registry_eq
  config_eq := h.config_eq
  blocks := by
    obtain ⟨number, hcontent, hblocks⟩ := h.blocks
    exact ⟨number, hcontent, hblocks.mono hs⟩

/-- The node is the one that the block asks for, with the bodies made from the texts of the
block. -/
inductive Represents (s : Store σ) (r : RegistryId) (config : Config) (b : Block) : Node σ → Prop
  | onlyIf {content : Text} {t : Template} : b.kind = .conditional →
      b.branches = (content, none) → Compiled s r config content t →
      Represents s r config b (.onlyIf (.path r b.placeholder b.negated) (.template t))
  | ifElse {onTrue onFalse : Text} {t t' : Template} : b.kind = .conditional →
      b.branches = (onTrue, some onFalse) → Compiled s r config onTrue t →
      Compiled s r config onFalse t' →
      Represents s r config b
        (.ifElse (.path r b.placeholder b.negated) (.template t) (.template t'))
  | repeating {t : Template} : b.kind = .repeating → Compiled s r config b.content t →
      Represents s r config b (.repeating b.name b.param none (.template t))
  | tabIndented {t : Template} : b.kind = .tabIndented → Compiled s r config b.content t →
      Represents s r config b
        (.indented .tab (b.param.elim 0 Block.indentCount) (.template t))
  | spaceIndented {t : Template} : b.kind = .spaceIndented → Compiled s r config b.content t →
      Represents s r config b
        (.indented .space (b.param.elim 0 Block.indentCount) (.template t))

theorem Represents.mono {s s' : Store σ} {r : RegistryId} {config : Config} {b : Block}
    {node : Node σ} (h : Represents s r config b node) (hs : s.Extends r s') :
    Represents s' r config b node := by
  cases h with
  | onlyIf hkind hbranches ht => exact .onlyIf hkind hbranches (ht.mono hs)
  | ifElse hkind hbranches ht ht' => exact .ifElse hkind hbranches (ht.mono hs) (ht'.mono hs)
  | repeating hkind ht => exact .repeating hkind (ht.mono hs)
  | tabIndented hkind ht => exact .tabIndented hkind (ht.mono hs)
  | spaceIndented hkind ht => exact .spaceIndented hkind (ht.mono hs)

/-- A block of a document. -/
def Printed (b : Block) : Prop := ∃ doc : Document, doc.WellFormed ∧ b ∈ doc.blocks

-- ---------------------------------------------------------------------------
-- The invariant
-- ---------------------------------------------------------------------------

/-- The invariant of a registry with the partials of the caller. -/
structure Tidy (r : RegistryId) (partials : Entries (Partial σ)) (s : Store σ) : Prop where
  isOpen : ∃ registry, s.registries[r]? = some registry ∧ registry.isOpen = true
  /-- Apart from the names of blocks, the entries are the partials. -/
  named : ∀ name, ¬ "block_".toList <+: name → (s.entries r).get? name = partials.get? name
  /-- What has the name of a block is a block that was issued. -/
  numbered : ∀ name entry, "block_".toList <+: name → (s.entries r).get? name = some entry →
    ∃ number < s.nextNumber r, entry = .deferred ⟨r, number⟩
  /-- Each block that was issued is registered under its number. -/
  registered : ∀ number < s.nextNumber r,
    (s.entries r).get? (Block.reference number) = some (.deferred ⟨r, number⟩)
  printed : ∀ number block config node,
    s.issued? ⟨r, number⟩ = some ⟨block, config, node⟩ → Printed block
  built : ∀ number block config node,
    s.issued? ⟨r, number⟩ = some ⟨block, config, some node⟩ →
      Represents s r config block node.value

/-- The second store is tidy, and it has the blocks of the first. -/
structure Follows (r : RegistryId) (partials : Entries (Partial σ)) (s s' : Store σ) : Prop where
  tidy : Tidy r partials s'
  grows : s.Extends r s'

section

variable {r : RegistryId} {partials : Entries (Partial σ)} {s s' s'' : Store σ}

theorem Follows.trans (h : Follows r partials s s') (h' : Follows r partials s' s'') :
    Follows r partials s s'' :=
  ⟨h'.tidy, h.grows.trans h'.grows⟩

namespace Tidy

theorem follows (h : Tidy r partials s) : Follows r partials s s := ⟨h, .refl r s⟩

theorem block_prefix_reference (number : Nat) : "block_".toList <+: Block.reference number :=
  List.prefix_append ..

/-- A change to the registry that leaves the entries alone, and the records but for nodes that their
blocks ask for, keeps the registry tidy. -/
theorem of_records (h : Tidy r partials s)
    (hopen : ∃ registry, s'.registries[r]? = some registry ∧ registry.isOpen = true)
    (hentries : s'.entries r = s.entries r) (hnumber : s'.nextNumber r = s.nextNumber r)
    (hgrows : s.Extends r s')
    (hrecords : ∀ number block config node,
      s'.issued? ⟨r, number⟩ = some ⟨block, config, node⟩ →
        s.issued? ⟨r, number⟩ = some ⟨block, config, node⟩ ∨
          (∃ old, s.issued? ⟨r, number⟩ = some ⟨block, config, old⟩) ∧
            ∀ new, node = some new → Represents s' r config block new.value) :
    Follows r partials s s' := by
  refine ⟨?_, hgrows⟩
  constructor
  · exact hopen
  · rw [hentries]
    exact h.named
  · rw [hentries, hnumber]
    exact h.numbered
  · rw [hentries, hnumber]
    exact h.registered
  · intro number block config node hrecord
    rcases hrecords number block config node hrecord with hold | ⟨⟨old, hold⟩, -⟩
    · exact h.printed number block config node hold
    · exact h.printed number block config old hold
  · intro number block config node hrecord
    rcases hrecords number block config (some node) hrecord with hold | ⟨-, hnode⟩
    · exact (h.built number block config node hold).mono hgrows
    · exact hnode node rfl

theorem of_same (h : Tidy r partials s) (hsame : s'.registries[r]? = s.registries[r]?) :
    Follows r partials s s' := by
  have hentries : s'.entries r = s.entries r := by rw [Store.entries, hsame, Store.entries]
  have hnumber : s'.nextNumber r = s.nextNumber r := by
    rw [Store.nextNumber, hsame, Store.nextNumber]
  have hissued : ∀ number, s'.issued? ⟨r, number⟩ = s.issued? ⟨r, number⟩ := by
    intro number
    show s'.registries[r]?.bind _ = s.registries[r]?.bind _
    rw [hsame]
  refine h.of_records (hsame ▸ h.isOpen) hentries hnumber ?_ ?_
  · intro number block config node hrecord
    exact ⟨node, (hissued number).trans hrecord⟩
  · intro number block config node hrecord
    exact .inl ((hissued number).symm.trans hrecord)

theorem issueAll (h : Tidy r partials s) (config : Config) {blocks : List Block}
    (hblocks : ∀ b ∈ blocks, Printed b) :
    Follows r partials s (s.issueAll r config blocks) := by
  obtain ⟨registry, hregistry, hopen⟩ := h.isOpen
  have hnumber := Store.nextNumber_issueAll hregistry config blocks
  have hgrows : s.Extends r (s.issueAll r config blocks) := by
    intro number block config' node hrecord
    have hlt := Store.lt_nextNumber_of_issued? hrecord
    exact ⟨node, (Store.issued?_issueAll_of_lt hregistry config blocks hlt).trans hrecord⟩
  refine ⟨?_, hgrows⟩
  constructor
  · exact ⟨_, Store.issueAll_registry blocks hregistry, by rw [Registry.issueAll_isOpen, hopen]⟩
  · intro name hname
    rw [Store.get?_issueAll_of_ne hregistry]
    · exact h.named name hname
    · rintro i - rfl
      exact hname (block_prefix_reference _)
  · -- a name with the form of a reference is that of a new block, or has the entry it had
    intro name entry hname hentry
    rw [hnumber]
    by_cases hnew : ∃ i < blocks.length, name = Block.reference (s.nextNumber r + i)
    · obtain ⟨i, hi, rfl⟩ := hnew
      rw [Store.get?_issueAll_add hregistry config blocks hi] at hentry
      exact ⟨s.nextNumber r + i, by omega, (Option.some.inj hentry).symm⟩
    · push Not at hnew
      rw [Store.get?_issueAll_of_ne hregistry config blocks hnew] at hentry
      obtain ⟨number, hlt, rfl⟩ := h.numbered name entry hname hentry
      exact ⟨number, by omega, rfl⟩
  · intro number hlt
    rw [hnumber] at hlt
    rcases Nat.lt_or_ge number (s.nextNumber r) with hold | hnew
    · rw [Store.get?_issueAll_of_ne hregistry]
      · exact h.registered number hold
      · intro i _ heq
        have := Block.reference_injective heq
        omega
    · obtain ⟨i, rfl⟩ := Nat.exists_eq_add_of_le hnew
      exact Store.get?_issueAll_add hregistry config blocks (by omega)
  · intro number block config' node hrecord
    rcases Store.issued?_issueAll_cases hregistry config blocks hrecord with hold | ⟨b, hb, heq⟩
    · exact h.printed number block config' node hold
    · cases heq
      exact hblocks _ hb
  · intro number block config' node hrecord
    rcases Store.issued?_issueAll_cases hregistry config blocks hrecord with hold | ⟨b, hb, heq⟩
    · exact (h.built number block config' node hold).mono hgrows
    · cases heq

theorem memoize (h : Tidy r partials s) {number : Nat} {record : Issued σ} {node : Shared (Node σ)}
    (hrecord : s.issued? ⟨r, number⟩ = some record)
    (hnode : Represents s r record.config record.block node.value) :
    Follows r partials s (s.memoize ⟨r, number⟩ node) := by
  obtain ⟨registry, hregistry, hopen⟩ := h.isOpen
  have hself : (s.memoize ⟨r, number⟩ node).issued? ⟨r, number⟩ =
      some { record with node := some node } := by
    rw [Store.issued?_memoize_self hregistry, hrecord]
    rfl
  have hgrows : s.Extends r (s.memoize ⟨r, number⟩ node) := by
    intro other block config old hold
    by_cases heq : other = number
    · subst heq
      rw [hrecord] at hold
      cases hold
      exact ⟨some node, hself⟩
    · exact ⟨old, (Store.issued?_memoize_of_ne hregistry number node heq).trans hold⟩
  refine h.of_records ⟨_, Store.memoize_registry hregistry number node, hopen⟩
    (Store.entries_memoize hregistry number node) (Store.nextNumber_memoize hregistry number node)
    hgrows ?_
  intro other block config new hnew
  by_cases heq : other = number
  · subst heq
    rw [hself] at hnew
    cases hnew
    refine .inr ⟨⟨record.node, hrecord⟩, fun kept hkept => ?_⟩
    cases hkept
    exact hnode.mono hgrows
  · rw [Store.issued?_memoize_of_ne hregistry number node heq] at hnew
    exact .inl hnew

theorem requireOpen (h : Tidy r partials s) : (Run.requireOpen r).exec s = (.ok (), s) := by
  obtain ⟨registry, hregistry, hopen⟩ := h.isOpen
  exact Run.exec_requireOpen (Store.open?_eq hregistry hopen)

end Tidy

-- ---------------------------------------------------------------------------
-- Compiling and building
-- ---------------------------------------------------------------------------

/-- What the block of a document holds: one body or two, which are documents again. -/
theorem Printed.bodies {b : Block} (h : Printed b) :
    (b.kind = .conditional ∧ ∃ onTrue : Document, onTrue.WellFormed ∧
      (b.branches = (onTrue.source, none) ∨ ∃ onFalse : Document, onFalse.WellFormed ∧
        b.branches = (onTrue.source, some onFalse.source))) ∨
    ((b.kind = .repeating ∨ b.kind = .tabIndented ∨ b.kind = .spaceIndented) ∧
      ∃ body : Document, body.WellFormed ∧ b.content = body.source) := by
  obtain ⟨doc, hdoc, hb⟩ := h
  induction doc with
  | nil => cases hb
  | literal text rest ih => exact ih hdoc.2 hb
  | inline tag rest ih => exact ih hdoc.2 hb
  | block h body rest _ ih =>
    obtain ⟨⟨hh, havoids⟩, hbody, hrest⟩ := hdoc
    rcases List.mem_cons.mp hb with rfl | hb
    · cases hkind : h.kind with
      | conditional =>
        exact .inl ⟨hkind, body, hbody, .inl (Document.branches_block hh hbody havoids)⟩
      | repeating => exact .inr ⟨.inl hkind, body, hbody, rfl⟩
      | tabIndented => exact .inr ⟨.inr (.inl hkind), body, hbody, rfl⟩
      | spaceIndented => exact .inr ⟨.inr (.inr hkind), body, hbody, rfl⟩
      | cached => exact absurd hkind hh.kind
    · exact ih hrest hb
  | ifElse h onTrue onFalse rest _ _ ih =>
    obtain ⟨⟨hh, hkind, havoids, havoids'⟩, htrue, hfalse, hrest⟩ := hdoc
    rcases List.mem_cons.mp hb with rfl | hb
    · exact .inl ⟨hkind, onTrue, htrue, .inr ⟨onFalse, hfalse,
        Document.branches_ifElse hh htrue hfalse havoids havoids'⟩⟩
    · exact ih hrest hb

namespace Run

/-- Compiling a document succeeds, and the blocks of the document are on record afterwards. -/
theorem compile_spec (h : Tidy r partials s) {doc : Document} (hdoc : doc.WellFormed)
    (ownsRegistry : Bool) (config : Config) :
    ∃ t s', (compile r ownsRegistry config doc.source).exec s = (.ok t, s') ∧
      Follows r partials s s' ∧ Compiled s' r config doc.source t := by
  obtain ⟨registry, hregistry, hopen⟩ := h.isOpen
  have hextraction := Document.ofText_source hdoc (s.nextNumber r)
  have hissued : Follows r partials s (s.issueAll r config doc.blocks) :=
    h.issueAll config fun b hb => ⟨doc, hdoc, hb⟩
  -- the blocks are on record from the number on that was the next one
  have hcompiled : Compiled (s.issueAll r config doc.blocks) r config doc.source
      ⟨Piece.textOf (doc.pieces (s.nextNumber r)), r, ownsRegistry, config⟩ := by
    refine ⟨rfl, rfl, s.nextNumber r, by rw [hextraction], fun i b hb => ⟨none, ?_⟩⟩
    rw [hextraction] at hb
    rw [Store.issued?_issueAll_add hregistry, hb]
    rfl
  obtain ⟨s', hexec, hsame⟩ :=
    compile_exec (Store.open?_eq hregistry hopen) ownsRegistry config doc.source
  rw [hextraction] at hexec hsame
  have hevent : Follows r partials (s.issueAll r config doc.blocks) s' :=
    hissued.tidy.of_same (by rw [hsame])
  exact ⟨_, s', hexec, hissued.trans hevent, hcompiled.mono hevent.grows⟩

theorem nested_spec (h : Tidy r partials s) {doc : Document} (hdoc : doc.WellFormed)
    (config : Config) :
    ∃ t s', (nested r config doc.source).exec s = (.ok (.template t), s') ∧
      Follows r partials s s' ∧ Compiled s' r config doc.source t := by
  obtain ⟨t, s', hexec, hfollows, hcompiled⟩ := compile_spec h hdoc false config
  exact ⟨t, s', by rw [nested, exec_bind_ok hexec]; rfl, hfollows, hcompiled⟩

theorem share_spec (h : Tidy r partials s) {α : Type} (value : α) :
    ∃ shared s', (modifyGet fun s : Store σ => s.share value : Run σ (Shared α)).exec s =
        (.ok shared, s') ∧ Follows r partials s s' ∧ shared.value = value :=
  ⟨_, _, rfl, h.of_same rfl, rfl⟩

/-- Building a node around the one body of a block. -/
theorem buildNode_around (h : Tidy r partials s) {config : Config} {b : Block} {doc : Document}
    (hdoc : doc.WellFormed) {around : Node σ → Node σ}
    (hbuild : buildNode r config b = do
      let body ← nested r config doc.source
      modifyGet fun s => s.share (around body))
    (hnode : ∀ s' t, Compiled s' r config doc.source t →
      Represents s' r config b (around (.template t))) :
    ∃ node s', (buildNode r config b).exec s = (.ok node, s') ∧
      Follows r partials s s' ∧ Represents s' r config b node.value := by
  obtain ⟨t, s₁, hexec, hfollows, hcompiled⟩ := nested_spec h hdoc config
  obtain ⟨node, s₂, hshare, hfollows', hvalue⟩ := share_spec hfollows.tidy (around (.template t))
  refine ⟨node, s₂, ?_, hfollows.trans hfollows', ?_⟩
  · rw [hbuild, exec_bind_ok hexec]
    exact hshare
  · rw [hvalue]
    exact hnode s₂ t (hcompiled.mono hfollows'.grows)

/-- Building the node of a document's block succeeds, and the node is the one it asks for. -/
theorem buildNode_spec (h : Tidy r partials s) (config : Config) {b : Block} (hb : Printed b) :
    ∃ node s', (buildNode r config b).exec s = (.ok node, s') ∧
      Follows r partials s s' ∧ Represents s' r config b node.value := by
  rcases hb.bodies with ⟨hkind, onTrue, htrue, hbranches | ⟨onFalse, hfalse, hbranches⟩⟩ |
    ⟨hkind, body, hbody, hcontent⟩
  · refine buildNode_around h htrue ?_ fun s' t ht => .onlyIf hkind hbranches ht
    rw [buildNode, hkind]
    simp only [hbranches]
  · -- two bodies are compiled one after the other
    obtain ⟨t, s₁, hexec, hfollows, hcompiled⟩ := nested_spec h htrue config
    obtain ⟨t', s₂, hexec', hfollows', hcompiled'⟩ := nested_spec hfollows.tidy hfalse config
    obtain ⟨node, s₃, hshare, hfollows'', hvalue⟩ := share_spec hfollows'.tidy
      (Node.ifElse (.path r b.placeholder b.negated) (.template t) (.template t'))
    refine ⟨node, s₃, ?_, (hfollows.trans hfollows').trans hfollows'', ?_⟩
    · rw [buildNode, hkind]
      simp only [hbranches]
      rw [exec_bind_ok hexec, exec_bind_ok hexec']
      exact hshare
    · rw [hvalue]
      exact .ifElse hkind hbranches (hcompiled.mono (hfollows'.trans hfollows'').grows)
        (hcompiled'.mono hfollows''.grows)
  · rcases hkind with hkind | hkind | hkind
    · refine buildNode_around h hbody ?_ fun s' t ht => .repeating hkind (hcontent ▸ ht)
      rw [buildNode, hkind, hcontent]
    · refine buildNode_around h hbody ?_ fun s' t ht => .tabIndented hkind (hcontent ▸ ht)
      rw [buildNode, hkind, hcontent]
    · refine buildNode_around h hbody ?_ fun s' t ht => .spaceIndented hkind (hcontent ▸ ht)
      rw [buildNode, hkind, hcontent]

/-- The node of an issued block, made now or earlier, is the one that the block asks for. -/
theorem build_spec (h : Tidy r partials s) {number : Nat} {block : Block} {config : Config}
    {kept : Option (Shared (Node σ))}
    (hrecord : s.issued? ⟨r, number⟩ = some ⟨block, config, kept⟩) :
    ∃ node s', (build ⟨r, number⟩).exec s = (.ok node, s') ∧
      Follows r partials s s' ∧ Represents s' r config block node.value := by
  cases kept with
  | some node =>
    refine ⟨node, s, ?_, h.follows, h.built number block config node hrecord⟩
    rw [build, exec_bind_ok (exec_get s), hrecord]
    rfl
  | none =>
    have hevent : Follows r partials s (s.emit (.building block.kind block.placeholder)) :=
      h.of_same rfl
    obtain ⟨node, s₁, hexec, hfollows, hnode⟩ :=
      buildNode_spec hevent.tidy config (h.printed number block config none hrecord)
    obtain ⟨kept, hrecord'⟩ := (hevent.trans hfollows).grows number block config none hrecord
    have hmemoize := hfollows.tidy.memoize hrecord' hnode
    refine ⟨node, _, ?_, (hevent.trans hfollows).trans hmemoize, hnode.mono hmemoize.grows⟩
    rw [build, exec_bind_ok (exec_get s), hrecord]
    simp only
    rw [exec_bind_ok (exec_emit ..), exec_bind_ok hexec, exec_bind_ok (exec_modify ..)]
    rfl

end Run

end

end Templating
