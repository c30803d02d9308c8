import Templating.Proofs.Block.Alternatives
import Templating.Proofs.Building
import Templating.Proofs.References
import Templating.Proofs.Twins
import Templating.Proofs.Vacancy

/-!
# A block and its negation

Two runs from one state, in which a text with two alternatives was compiled, but in the second run
with the other opening first. The states of the two runs differ in one place only: the record of the
block, and in it the sign of its condition and the order of its parts. The nodes that are made of
the two records do the same, so no rendering tells the two runs apart.

* `Swap` — the alternatives, the options, and the number that the block was issued under;
* `Swap.renderVia_node` — what either node does: it looks up the path, and renders one of the parts;
* `Swap.OnStore` — the stores of the two runs;
* `Swap.twins` — they stay like this, and show the same, whatever is rendered.
-/

namespace Templating

variable {σ α : Type}

/-- Alternatives that were compiled with some options and issued as a block. -/
structure Swap extends Alternatives where
  config : Config
  id : BlockId

namespace Swap

-- ---------------------------------------------------------------------------
-- The two nodes
-- ---------------------------------------------------------------------------

section Nodes

variable (w : Swap)

/-- The template of a part. -/
def body (content : Text) : Template := ⟨content, w.id.registry, false, w.config⟩

/-- The node of the block, with either sign. -/
def node (negated : Bool) : Node σ :=
  .ifElse (.path w.id.registry w.placeholder negated) (.template (w.body (w.onTrue negated)))
    (.template (w.body (w.onFalse negated)))

/-- The record of the block, with either sign and, once it is built, the identity of its node. -/
def record (identity : Option Nat) (negated : Bool) : Issued σ :=
  ⟨w.block negated, w.config, identity.map fun i => ⟨i, w.node negated⟩⟩

/-- The part that is rendered for a value of the path. -/
def part (value : Option Value) : Text := if Value.Vacant value then w.second else w.first

/-- A test for one value, with the sign of the node, decides between its parts. -/
theorem choose_part (negated : Bool) (value : Option Value) :
    (if Value.isFalsyOrAbsent value == negated then w.onTrue negated else w.onFalse negated) =
      w.part value := by
  by_cases hvacant : Value.Vacant value
  · rw [(Value.isFalsyOrAbsent_iff value).mpr hvacant, part, if_pos hvacant]
    cases negated <;> rfl
  · rw [eq_false_of_ne_true (mt (Value.isFalsyOrAbsent_iff value).mp hvacant), part,
      if_neg hvacant]
    cases negated <;> rfl

/-- Whatever its sign, the node looks up the path and renders the part for the value. -/
theorem renderVia_node (below : Node σ → Value → Run σ Text) (negated : Bool) (params : Value) :
    (w.node negated).renderVia below params = (do
      Run.requireOpen w.id.registry
      let value ← Run.lookup below w.id.registry params w.placeholder
      (Node.template (w.body (w.part value))).renderVia below params) := by
  rw [node, Node.renderVia, Run.test]
  simp only [bind_assoc, pure_bind]
  refine bind_congr fun _ => bind_congr fun value => ?_
  rw [← w.choose_part negated value]
  cases Value.isFalsyOrAbsent value == negated <;> rfl

theorem node_alike (negated negated' : Bool) :
    (w.node negated : Node σ).Alike (w.node negated') := by
  intro below
  funext params
  rw [renderVia_node, renderVia_node]

end Nodes

-- ---------------------------------------------------------------------------
-- The two stores
-- ---------------------------------------------------------------------------

variable (w : Swap)

/-- The records at a place: the two of the block, or the same. -/
inductive OnRecords (place : BlockId) : Option (Issued σ) → Option (Issued σ) → Prop
  | same {record : Option (Issued σ)} : place ≠ w.id → OnRecords place record record
  | swapped (identity : Option Nat) : place = w.id →
      OnRecords place (some (w.record identity false)) (some (w.record identity true))

/-- Registries that differ in the record of the block only. The one that the block was issued in is
open, and has the block under its number. -/
structure OnRegistry (r : RegistryId) (registry registry' : Registry σ) : Prop where
  entries : registry'.entries = registry.entries
  isOpen : registry'.isOpen = registry.isOpen
  length : registry'.issued.length = registry.issued.length
  records : ∀ number, w.OnRecords ⟨r, number⟩ registry.issued[number]? registry'.issued[number]?
  home : r = w.id.registry → registry.isOpen = true ∧
    registry.entries.get? (Block.reference w.id.number) = some (.deferred w.id)

/-- Stores that differ in the record of the block only. -/
structure OnStore (s s' : Store σ) : Prop where
  registries : ∀ r, Option.Rel (w.OnRegistry r) s.registries[r]? s'.registries[r]?
  here : w.id.registry < s.registries.length
  cells : s'.cells = s.cells
  identities : s'.identities = s.identities
  events : s'.events = s.events
  caller : s'.caller = s.caller

variable {w}

section Records

variable {place : BlockId} {record record' : Option (Issued σ)}

theorem OnRecords.eq_of_ne (h : w.OnRecords place record record') (hne : place ≠ w.id) :
    record' = record := by
  cases h with
  | same => rfl
  | swapped _ hplace => exact absurd hplace hne

theorem OnRecords.at_id (h : w.OnRecords place record record') (hplace : place = w.id) :
    ∃ identity, record = some (w.record identity false) ∧
      record' = some (w.record identity true) := by
  cases h with
  | same hne => exact absurd hplace hne
  | swapped identity _ => exact ⟨identity, rfl, rfl⟩

end Records

namespace OnRegistry

variable {r : RegistryId} {registry registry' : Registry σ} {number : Nat}

/-- The number of the block was given out. -/
theorem lt_length (h : w.OnRegistry r registry registry') (hid : ⟨r, number⟩ = w.id) :
    number < registry.issued.length := by
  obtain ⟨identity, hrecord, -⟩ := (h.records number).at_id hid
  exact (List.getElem?_eq_some_iff.mp hrecord).1

theorem insert (h : w.OnRegistry r registry registry') {name : Text} (entry : Partial σ)
    (hname : ∀ number, name ≠ Block.reference number) :
    w.OnRegistry r { registry with entries := registry.entries.insert name entry }
      { registry' with entries := registry'.entries.insert name entry } where
  entries := by rw [h.entries]
  isOpen := h.isOpen
  length := h.length
  records := h.records
  home := fun hr => ⟨(h.home hr).1, by
    rw [Entries.get?_insert, if_neg (hname _)]
    exact (h.home hr).2⟩

theorem issue (h : w.OnRegistry r registry registry') (config : Config) (block : Block) :
    w.OnRegistry r (registry.issue r config block) (registry'.issue r config block) where
  entries := by rw [Registry.issue, Registry.issue, h.entries, h.length]
  isOpen := h.isOpen
  length := by
    rw [Registry.issue, Registry.issue, List.length_append, List.length_append, h.length]
  records := by
    intro number
    rw [Registry.issue, Registry.issue, List.getElem?_append, List.getElem?_append, h.length]
    split
    · exact h.records number
    · next hge => exact .same fun hid => hge (h.lt_length hid)
  home := by
    rintro rfl
    refine ⟨(h.home rfl).1, ?_⟩
    rw [Registry.issue, Entries.get?_insert, if_neg]
    · exact (h.home rfl).2
    · intro heq
      have hlt : w.id.number < registry.issued.length := h.lt_length rfl
      have hnumber := Block.reference_injective heq
      omega

/-- Nodes are kept under one number, which leaves the other records as they are. -/
theorem keepNode_of_records (h : w.OnRegistry r registry registry') {node node' : Shared (Node σ)}
    (hkept : w.OnRecords ⟨r, number⟩
      ((fun record => { record with node := some node }) <$> registry.issued[number]?)
      ((fun record => { record with node := some node' }) <$> registry'.issued[number]?)) :
    w.OnRegistry r (registry.keepNode number node) (registry'.keepNode number node') where
  entries := h.entries
  isOpen := h.isOpen
  length := by
    rw [Registry.keepNode, Registry.keepNode, List.length_modify, List.length_modify, h.length]
  records := by
    intro other
    rw [Registry.keepNode, Registry.keepNode]
    by_cases hother : number = other
    · subst hother
      rw [List.getElem?_modify_eq, List.getElem?_modify_eq]
      exact hkept
    · rw [List.getElem?_modify_ne _ _ hother, List.getElem?_modify_ne _ _ hother]
      exact h.records other
  home := h.home

/-- The node of another block is kept. -/
theorem keepNode (h : w.OnRegistry r registry registry') (node : Shared (Node σ))
    (hne : ⟨r, number⟩ ≠ w.id) :
    w.OnRegistry r (registry.keepNode number node) (registry'.keepNode number node) := by
  refine h.keepNode_of_records ?_
  rw [(h.records number).eq_of_ne hne]
  exact .same hne

/-- Each registry keeps its node of the block. -/
theorem keepNode_id (h : w.OnRegistry r registry registry') (identity : Nat)
    (hid : ⟨r, number⟩ = w.id) :
    w.OnRegistry r (registry.keepNode number ⟨identity, w.node false⟩)
      (registry'.keepNode number ⟨identity, w.node true⟩) := by
  obtain ⟨kept, hrecord, hrecord'⟩ := (h.records number).at_id hid
  refine h.keepNode_of_records ?_
  rw [hrecord, hrecord']
  exact .swapped (some identity) hid

end OnRegistry

namespace OnStore

variable {s s' : Store σ}

theorem modifyRegistry (h : w.OnStore s s') (r : RegistryId) {f f' : Registry σ → Registry σ}
    (hf : ∀ registry registry', w.OnRegistry r registry registry' →
      w.OnRegistry r (f registry) (f' registry')) :
    w.OnStore (s.modifyRegistry r f) (s'.modifyRegistry r f') where
  registries := by
    intro other
    have hmap : ∀ {a a' : Option (Registry σ)}, Option.Rel (w.OnRegistry r) a a' →
        Option.Rel (w.OnRegistry r) (f <$> a) (f' <$> a') := by
      intro a a' hrel
      cases hrel with
      | none => exact .none
      | some hregistry => exact .some (hf _ _ hregistry)
    show Option.Rel _ (s.registries.modify r f)[other]? (s'.registries.modify r f')[other]?
    by_cases hother : r = other
    · subst hother
      rw [List.getElem?_modify_eq, List.getElem?_modify_eq]
      exact hmap (h.registries r)
    · rw [List.getElem?_modify_ne _ _ hother, List.getElem?_modify_ne _ _ hother]
      exact h.registries other
  here := by
    show _ < (s.registries.modify r f).length
    rw [List.length_modify]
    exact h.here
  cells := h.cells
  identities := h.identities
  events := h.events
  caller := h.caller

/-- What the stores have under a number. -/
theorem registry_cases (h : w.OnStore s s') (r : RegistryId) :
    (s.registries[r]? = none ∧ s'.registries[r]? = none ∧ r ≠ w.id.registry) ∨
      ∃ registry registry', s.registries[r]? = some registry ∧
        s'.registries[r]? = some registry' ∧ w.OnRegistry r registry registry' := by
  have hrel := h.registries r
  rcases hs : s.registries[r]? with _ | registry
  · rcases hs' : s'.registries[r]? with _ | registry'
    · refine .inl ⟨rfl, rfl, ?_⟩
      rintro rfl
      exact absurd h.here (Nat.not_lt.mpr (List.getElem?_eq_none_iff.mp hs))
    · rw [hs, hs'] at hrel
      cases hrel
  · rcases hs' : s'.registries[r]? with _ | registry'
    · rw [hs, hs'] at hrel
      cases hrel
    · rw [hs, hs'] at hrel
      cases hrel with
      | some hregistry => exact .inr ⟨registry, registry', rfl, rfl, hregistry⟩

theorem home (h : w.OnStore s s') :
    ∃ registry registry', s.registries[w.id.registry]? = some registry ∧
      s'.registries[w.id.registry]? = some registry' ∧
      w.OnRegistry w.id.registry registry registry' := by
  rcases h.registry_cases w.id.registry with ⟨-, -, hne⟩ | hhome
  · exact absurd rfl hne
  · exact hhome

theorem open?_isNone (h : w.OnStore s s') (r : RegistryId) :
    (s'.open? r).isNone = (s.open? r).isNone := by
  rw [Store.open?, Store.open?]
  rcases h.registry_cases r with ⟨hnone, hnone', -⟩ | ⟨registry, registry', hsome, hsome', hrel⟩
  · rw [hnone, hnone']
  · rw [hsome, hsome', Option.filter, Option.filter, hrel.isOpen]
    split <;> rfl

theorem entries (h : w.OnStore s s') (r : RegistryId) : s'.entries r = s.entries r := by
  rcases h.registry_cases r with ⟨hnone, hnone', -⟩ | ⟨registry, registry', hsome, hsome', hrel⟩
  · rw [Store.entries, Store.entries, hnone, hnone']
  · rw [Store.entries_eq hsome, Store.entries_eq hsome', hrel.entries]

theorem nextNumber (h : w.OnStore s s') (r : RegistryId) : s'.nextNumber r = s.nextNumber r := by
  rcases h.registry_cases r with ⟨hnone, hnone', -⟩ | ⟨registry, registry', hsome, hsome', hrel⟩
  · rw [Store.nextNumber, Store.nextNumber, hnone, hnone']
  · rw [Store.nextNumber_eq hsome, Store.nextNumber_eq hsome', hrel.length]

theorem issued? (h : w.OnStore s s') (b : BlockId) :
    w.OnRecords b (s.issued? b) (s'.issued? b) := by
  obtain ⟨r, number⟩ := b
  rcases h.registry_cases r with ⟨hnone, hnone', hne⟩ | ⟨registry, registry', hsome, hsome', hrel⟩
  · rw [Store.issued?, Store.issued?, hnone, hnone']
    exact .same fun hid => hne (congrArg BlockId.registry hid)
  · rw [Store.issued?_eq hsome, Store.issued?_eq hsome']
    exact hrel.records number

theorem emit (h : w.OnStore s s') (e : Event) : w.OnStore (s.emit e) (s'.emit e) :=
  ⟨h.registries, h.here, h.cells, h.identities, congrArg (e :: ·) h.events, h.caller⟩

theorem keep (h : w.OnStore s s') (cell : CellId) (snapshot : Option Snapshot) :
    w.OnStore (s.keep cell snapshot) (s'.keep cell snapshot) :=
  ⟨h.registries, h.here, congrArg (·.set cell snapshot) h.cells, h.identities, h.events, h.caller⟩

theorem act (h : w.OnStore s s') (caller : σ) :
    w.OnStore { s with caller := caller } { s' with caller := caller } :=
  ⟨h.registries, h.here, h.cells, h.identities, h.events, rfl⟩

/-- Things get the same identity. -/
theorem share (h : w.OnStore s s') (value value' : α) :
    w.OnStore (s.share value).2 (s'.share value').2 :=
  ⟨h.registries, h.here, h.cells, congrArg (· + 1) h.identities, h.events, h.caller⟩

theorem newCell (h : w.OnStore s s') : w.OnStore s.newCell.2 s'.newCell.2 :=
  ⟨h.registries, h.here, congrArg (· ++ [none]) h.cells, h.identities, h.events, h.caller⟩

theorem insert (h : w.OnStore s s') (r : RegistryId) {name : Text} (entry : Partial σ)
    (hname : ∀ number, name ≠ Block.reference number) :
    w.OnStore (s.insert r name entry) (s'.insert r name entry) :=
  h.modifyRegistry r fun _ _ hrel => hrel.insert entry hname

theorem issue (h : w.OnStore s s') (r : RegistryId) (config : Config) (block : Block) :
    w.OnStore (s.issue r config block) (s'.issue r config block) where
  registries := by
    intro other
    by_cases hother : other = r
    · subst hother
      rcases h.registry_cases other with
        ⟨hnone, hnone', -⟩ | ⟨registry, registry', hsome, hsome', hrel⟩
      · have hstill : ∀ s : Store σ, s.registries[other]? = none →
            (s.issue other config block).registries[other]? = none := by
          intro s hs
          show (s.registries.modify other _)[other]? = none
          rw [List.getElem?_modify_eq, hs]
          rfl
        rw [hstill s hnone, hstill s' hnone']
        exact .none
      · rw [Store.issue_registry hsome, Store.issue_registry hsome']
        exact .some (hrel.issue config block)
    · rw [Store.issue_other hother, Store.issue_other hother]
      exact h.registries other
  here := by
    show _ < (s.registries.modify r _).length
    rw [List.length_modify]
    exact h.here
  cells := h.cells
  identities := h.identities
  events := by
    rw [Store.issue, Store.issue, h.nextNumber r]
    exact congrArg (_ :: ·) h.events
  caller := h.caller

theorem issueAll (r : RegistryId) (config : Config) : ∀ (blocks : List Block) {s s' : Store σ},
    w.OnStore s s' → w.OnStore (s.issueAll r config blocks) (s'.issueAll r config blocks)
  | [], _, _, h => h
  | block :: blocks, _, _, h => issueAll r config blocks (h.issue r config block)

/-- The node of another block is kept. -/
theorem memoize (h : w.OnStore s s') {b : BlockId} (hne : b ≠ w.id) (node : Shared (Node σ)) :
    w.OnStore (s.memoize b node) (s'.memoize b node) :=
  h.modifyRegistry b.registry fun _ _ hrel => hrel.keepNode node hne

/-- Each store keeps its node of the block. -/
theorem memoize_id (h : w.OnStore s s') (identity : Nat) :
    w.OnStore (s.memoize w.id ⟨identity, w.node false⟩)
      (s'.memoize w.id ⟨identity, w.node true⟩) :=
  h.modifyRegistry w.id.registry fun _ _ hrel => hrel.keepNode_id identity rfl

theorem agreeing : Agreeing (w.OnStore : Store σ → Store σ → Prop) where
  isOpen := open?_isNone
  entries := entries
  cells := OnStore.cells
  caller := OnStore.caller
  emit := emit
  keep := keep
  act := act

end OnStore

-- ---------------------------------------------------------------------------
-- Builds of other blocks
-- ---------------------------------------------------------------------------

section Building

open Run

theorem blind_extract (r : RegistryId) (config : Config) (content : Text) :
    Blind w.OnStore (extract (σ := σ) r config content) := by
  intro s s' hs
  rw [extract_exec, extract_exec, hs.nextNumber r]
  exact ⟨rfl, hs.issueAll r config _⟩

theorem blind_nested (r : RegistryId) (config : Config) (content : Text) :
    Blind w.OnStore (nested (σ := σ) r config content) := by
  refine Blind.bind ?_ fun _ => blind_pure _
  refine (blind_requireOpen OnStore.agreeing r).bind fun _ => ?_
  refine (blind_extract r config content).bind fun extraction => ?_
  simp only
  split
  · exact (blind_emit OnStore.agreeing _).bind fun _ => blind_pure _
  · exact blind_pure _

theorem blind_share (node : Node σ) :
    Blind w.OnStore (modifyGet fun s : Store σ => s.share node : Run σ (Shared (Node σ))) := by
  refine blind_modifyGet fun s s' hs => ⟨?_, hs.share node node⟩
  rw [Store.share, Store.share, hs.identities]

theorem blind_newCell :
    Blind w.OnStore (modifyGet Store.newCell : Run σ CellId) := by
  refine blind_modifyGet fun s s' hs => ⟨?_, hs.newCell⟩
  rw [Store.newCell, Store.newCell, hs.cells]

theorem blind_buildNode (r : RegistryId) (config : Config) (block : Block) :
    Blind w.OnStore (buildNode (σ := σ) r config block) := by
  unfold buildNode
  cases block.kind with
  | conditional =>
    cases block.branches with
    | mk onTrue onFalse =>
      refine (blind_nested r config onTrue).bind fun _ => ?_
      cases onFalse with
      | none => exact blind_share _
      | some onFalse => exact (blind_nested r config onFalse).bind fun _ => blind_share _
  | repeating => exact (blind_nested r config _).bind fun _ => blind_share _
  | tabIndented => exact (blind_nested r config _).bind fun _ => blind_share _
  | spaceIndented => exact (blind_nested r config _).bind fun _ => blind_share _
  | cached =>
    refine (blind_requireOpen OnStore.agreeing r).bind fun _ => ?_
    refine blind_get (fun s s' hs => by rw [hs.entries]) fun s => ?_
    split
    · exact (blind_emit OnStore.agreeing _).bind fun _ => blind_pure _
    · refine (blind_nested r config _).bind fun _ => blind_newCell.bind fun cell => ?_
      refine (blind_share _).bind fun node => ?_
      exact (blind_modify fun _ _ hs => hs.insert r _ block.slot_ne_reference).bind fun _ =>
        blind_pure _

theorem blind_build {b : BlockId} (hne : b ≠ w.id) : Blind w.OnStore (build (σ := σ) b) := by
  refine blind_get (fun s s' hs => by rw [(hs.issued? b).eq_of_ne hne]) fun s => ?_
  cases s.issued? b with
  | none => exact blind_throw _
  | some record =>
    simp only
    cases record.node with
    | some node => exact blind_pure _
    | none =>
      refine (blind_emit OnStore.agreeing _).bind fun _ => ?_
      refine (blind_buildNode b.registry record.config record.block).bind fun node => ?_
      exact (blind_modify fun _ _ hs => hs.memoize hne node).bind fun _ => blind_pure _

end Building

-- ---------------------------------------------------------------------------
-- Builds of the block
-- ---------------------------------------------------------------------------

variable (w) in
/-- The store has the block with a sign on record, in a registry that is open. -/
structure Holds (negated : Bool) (identity : Option Nat) (s : Store σ) : Prop where
  record : s.issued? w.id = some (w.record identity negated)
  entry : (s.entries w.id.registry).get? (Block.reference w.id.number) = some (.deferred w.id)
  isOpen : ∃ registry, s.open? w.id.registry = some registry

theorem OnStore.holds {s s' : Store σ} (h : w.OnStore s s') :
    ∃ identity, w.Holds false identity s ∧ w.Holds true identity s' := by
  obtain ⟨registry, registry', hregistry, hregistry', hrel⟩ := h.home
  obtain ⟨hopen, hentry⟩ := hrel.home rfl
  obtain ⟨identity, hrecord, hrecord'⟩ := (h.issued? w.id).at_id rfl
  refine ⟨identity, ⟨hrecord, ?_, registry, Store.open?_eq hregistry hopen⟩,
    ⟨hrecord', ?_, registry', Store.open?_eq hregistry' (hrel.isOpen.trans hopen)⟩⟩
  · rw [Store.entries_eq hregistry]
    exact hentry
  · rw [h.entries, Store.entries_eq hregistry]
    exact hentry

section Building

open Run

variable {negated : Bool} {s : Store σ}

theorem buildNode_block {registry : Registry σ} (hopen : s.open? w.id.registry = some registry)
    (negated : Bool) :
    (buildNode w.id.registry w.config (w.block negated)).exec s =
      (.ok ⟨s.identities, w.node negated⟩, (s.share (w.node negated : Node σ)).2) := by
  have hkind : (w.block negated).kind = .conditional := rfl
  rw [buildNode, hkind]
  simp only [w.branches_block]
  rw [exec_bind_ok (nested_plain hopen (w.find?_onTrue negated) w.config),
    exec_bind_ok (nested_plain hopen (w.find?_onFalse negated) w.config)]
  rfl

variable (w) in
/-- The store after the first build. -/
def built (negated : Bool) (s : Store σ) : Store σ :=
  ((s.emit (.building .conditional w.placeholder)).share (w.node negated : Node σ)).2.memoize w.id
    ⟨s.identities, w.node negated⟩

theorem Holds.build_fresh (h : w.Holds negated none s) :
    (build w.id).exec s = (.ok ⟨s.identities, w.node negated⟩, w.built negated s) := by
  obtain ⟨registry, hopen⟩ := h.isOpen
  have hemitted : (s.emit (.building .conditional w.placeholder)).open? w.id.registry =
      some registry := hopen
  have hnone : (w.record none negated : Issued σ).node = none := rfl
  rw [build, exec_bind_ok (exec_get s), h.record]
  simp only [hnone]
  rw [exec_bind_ok (exec_emit ..)]
  exact exec_bind_ok (buildNode_block hemitted negated) _

theorem Holds.build_again {i : Nat} (h : w.Holds negated (some i) s) :
    (build w.id).exec s = (.ok ⟨i, w.node negated⟩, s) := by
  rw [build, exec_bind_ok (exec_get s), h.record]
  rfl

/-- A build gives the node of the block. -/
theorem Holds.build {identity : Option Nat} (h : w.Holds negated identity s) :
    ∃ i s', (build w.id).exec s = (.ok ⟨i, w.node negated⟩, s') := by
  cases identity with
  | none => exact ⟨_, _, h.build_fresh⟩
  | some i => exact ⟨_, _, h.build_again⟩

/-- The block is built in both stores, or was in both. -/
theorem OnStore.build_id {s' : Store σ} (h : w.OnStore s s') :
    BuildsAlike ((Run.build w.id).exec s).1 ((Run.build w.id).exec s').1 ∧
      w.OnStore ((Run.build w.id).exec s).2 ((Run.build w.id).exec s').2 := by
  obtain ⟨identity, hholds, hholds'⟩ := h.holds
  cases identity with
  | none =>
    rw [hholds.build_fresh, hholds'.build_fresh, h.identities]
    refine ⟨.ok (w.node_alike false true), ?_⟩
    rw [built, built, h.identities]
    exact ((h.emit _).share _ _).memoize_id s.identities
  | some i =>
    rw [hholds.build_again, hholds'.build_again]
    exact ⟨.ok (w.node_alike false true), h⟩

theorem BuildsAlike.refl (outcome : Except Failure (Shared (Node σ))) :
    BuildsAlike outcome outcome := by
  cases outcome with
  | ok node => exact .ok fun _ => rfl
  | error failure => exact .failed failure

/-- **The stores of the two runs are twins.** -/
theorem twins : Twins (w.OnStore : Store σ → Store σ → Prop) where
  toAgreeing := OnStore.agreeing
  build := by
    intro s s' hs b
    by_cases hid : b = w.id
    · subst hid
      exact hs.build_id
    · obtain ⟨houtcome, hstore⟩ := blind_build hid s s' hs
      rw [houtcome]
      exact ⟨BuildsAlike.refl _, hstore⟩

end Building

-- ---------------------------------------------------------------------------
-- The start
-- ---------------------------------------------------------------------------

/-- After the two texts were compiled from one store, the stores differ in the block only. -/
theorem onStore_issue {s : Store σ} {registry : Registry σ}
    (hopen : s.open? w.id.registry = some registry)
    (hnumber : w.id.number = s.nextNumber w.id.registry) :
    w.OnStore (s.issue w.id.registry w.config (w.block false))
      (s.issue w.id.registry w.config (w.block true)) := by
  have hregistry : s.registries[w.id.registry]? = some registry :=
    (Option.filter_eq_some_iff.mp hopen).1
  have hisOpen : registry.isOpen = true := (Option.filter_eq_some_iff.mp hopen).2
  rw [Store.nextNumber_eq hregistry] at hnumber
  have hid : (⟨w.id.registry, registry.issued.length⟩ : BlockId) = w.id := by rw [← hnumber]
  have hhome : w.OnRegistry w.id.registry
      (registry.issue w.id.registry w.config (w.block false))
      (registry.issue w.id.registry w.config (w.block true)) :=
    { entries := rfl
      isOpen := rfl
      length := by
        rw [Registry.issue, Registry.issue, List.length_append, List.length_append]
        rfl
      records := by
        intro number
        rw [Registry.issue, Registry.issue, List.getElem?_append, List.getElem?_append]
        by_cases hat : number = registry.issued.length
        · subst hat
          rw [if_neg (Nat.lt_irrefl _), if_neg (Nat.lt_irrefl _), Nat.sub_self]
          exact .swapped none hid
        · -- the new record is the only one at its number
          have hne : (⟨w.id.registry, number⟩ : BlockId) ≠ w.id := fun heq =>
            hat (congrArg BlockId.number (heq.trans hid.symm))
          split
          · exact .same hne
          · obtain ⟨k, hk⟩ : ∃ k, number - registry.issued.length = k + 1 :=
              ⟨number - registry.issued.length - 1, by omega⟩
            rw [hk]
            exact .same hne
      home := by
        intro _
        refine ⟨hisOpen, ?_⟩
        rw [Registry.issue, Entries.get?_insert, hnumber, if_pos rfl, hid] }
  refine ⟨fun r => ?_, ?_, rfl, rfl, rfl, rfl⟩
  · by_cases hr : r = w.id.registry
    · subst hr
      rw [Store.issue_registry hregistry, Store.issue_registry hregistry]
      exact .some hhome
    · rw [Store.issue_other hr, Store.issue_other hr]
      cases s.registries[r]? with
      | none => exact .none
      | some other =>
        have helsewhere : ∀ number, (⟨r, number⟩ : BlockId) ≠ w.id := fun number heq =>
          hr (congrArg BlockId.registry heq)
        exact .some ⟨rfl, rfl, rfl, fun number => .same (helsewhere number),
          fun heq => absurd heq hr⟩
  · show _ < (s.registries.modify w.id.registry _).length
    rw [List.length_modify]
    exact (List.getElem?_eq_some_iff.mp hregistry).1

end Swap

end Templating
