import Mathlib.Data.List.Forall2
import Templating.Proofs.Effects
import Templating.Proofs.Extraction

/-!
# Looser options

Two runs of the library from one state, of which the second has looser options: an unresolved path
is no error, and there are more passes. The options are copied into every block that is taken out of
a template and into every node that is built, so the states of the two runs differ, but in nothing
else than that some options are the tight ones in the first and the loose ones in the second.

* `Loosening` — tight options and loose ones;
* `Loosening.OnNode`, `Loosening.OnStore` — nodes and stores that differ in this way only;
* `Loosening.Excuses` — the errors that the tight options alone can raise;
* `Loosening.OnRun` — computations that do the same in such stores, unless the first fails with
  such an error;
* `Loosening.onRun_compile`, `Loosening.onRun_build` — compiling and building are such computations.
-/

namespace Templating

variable {σ α β : Type}

-- ---------------------------------------------------------------------------
-- Related lists
-- ---------------------------------------------------------------------------

section Lists

variable {R : α → α → Prop} {l l' : List α}

/-- Related lists have related elements at the same places. -/
theorem forall₂_getElem? (h : List.Forall₂ R l l') : ∀ i : Nat, (l[i]? = none ∧ l'[i]? = none) ∨
    ∃ a a', l[i]? = some a ∧ l'[i]? = some a' ∧ R a a' := by
  induction h with
  | nil => exact fun _ => .inl ⟨rfl, rfl⟩
  | cons hfirst _ ih =>
    intro i
    cases i with
    | zero => exact .inr ⟨_, _, rfl, rfl, hfirst⟩
    | succ i => exact ih i

theorem forall₂_modify (h : List.Forall₂ R l l') {f f' : α → α}
    (hf : ∀ a a', R a a' → R (f a) (f' a')) :
    ∀ i, List.Forall₂ R (l.modify i f) (l'.modify i f') := by
  induction h with
  | nil =>
    intro i
    cases i <;> exact .nil
  | cons hfirst hrest ih =>
    intro i
    cases i with
    | zero => exact .cons (hf _ _ hfirst) hrest
    | succ i => exact .cons hfirst (ih i)

end Lists

-- ---------------------------------------------------------------------------
-- Options
-- ---------------------------------------------------------------------------

/-- Tight options, and loose ones that differ from them in strictness and in the number of passes
only. -/
structure Loosening where
  tight : Config
  loose : Config
  undefinedText : loose.undefinedText = tight.undefinedText
  strictPaths : loose.strictPaths = false
  maxPasses : tight.maxPasses ≤ loose.maxPasses

namespace Loosening

variable (l : Loosening)

/-- The errors that the tight options can raise where the loose ones do not. -/
def Excuses (failure : Failure) : Prop :=
  (l.tight.strictPaths = true ∧ ∃ path, failure = .error (.unresolvedPath path)) ∨
    (l.tight.maxPasses < l.loose.maxPasses ∧ failure = .error (.unsettled l.tight.maxPasses))

/-- The same options, or the loose ones in place of the tight ones. -/
def OnConfig (config config' : Config) : Prop :=
  config' = config ∨ config = l.tight ∧ config' = l.loose

-- ---------------------------------------------------------------------------
-- Nodes and stores
-- ---------------------------------------------------------------------------

/-- Nodes that differ in the options of the templates in them only. -/
inductive OnNode : Node σ → Node σ → Prop
  | literal (text : Text) : OnNode (.literal text) (.literal text)
  | sequence {first first' second second' : Node σ} : OnNode first first' → OnNode second second' →
      OnNode (.sequence first second) (.sequence first' second')
  | onlyIf {body body' : Node σ} (test : Condition σ) : OnNode body body' →
      OnNode (.onlyIf test body) (.onlyIf test body')
  | ifElse {onTrue onTrue' onFalse onFalse' : Node σ} (test : Condition σ) :
      OnNode onTrue onTrue' → OnNode onFalse onFalse' →
      OnNode (.ifElse test onTrue onFalse) (.ifElse test onTrue' onFalse')
  | repeatingWith {body body' : Node σ} (path : Text) (itemName : Option Text)
      (transform : Option (Value → Value → Action σ Value)) : OnNode body body' →
      OnNode (.repeatingWith path itemName transform body)
        (.repeatingWith path itemName transform body')
  | cached {body body' : Node σ} (cell : CellId) (validator : Option (Validator σ)) :
      OnNode body body' → OnNode (.cached cell validator body) (.cached cell validator body')
  | indented {body body' : Node σ} (unit : IndentUnit) (count : Nat) : OnNode body body' →
      OnNode (.indented unit count body) (.indented unit count body')
  | callback (call : Value → Action σ Text) : OnNode (.callback call) (.callback call)
  | template {config config' : Config} (content : Text) (r : RegistryId) (ownsRegistry : Bool) :
      l.OnConfig config config' →
      OnNode (.template ⟨content, r, ownsRegistry, config⟩)
        (.template ⟨content, r, ownsRegistry, config'⟩)

inductive OnShared : Shared (Node σ) → Shared (Node σ) → Prop
  | intro {node node' : Node σ} (identity : Nat) : l.OnNode node node' →
      OnShared ⟨identity, node⟩ ⟨identity, node'⟩

/-- What callers put into a registry is the same; nodes may be those of blocks. -/
inductive OnEntry : Text × Partial σ → Text × Partial σ → Prop
  | same (name : Text) (entry : Partial σ) : OnEntry (name, entry) (name, entry)
  | block {node node' : Shared (Node σ)} (name : Text) : l.OnShared node node' →
      OnEntry (name, .block node) (name, .block node')

inductive OnRecord : Issued σ → Issued σ → Prop
  | intro {config config' : Config} {node node' : Option (Shared (Node σ))} (block : Block) :
      l.OnConfig config config' → Option.Rel l.OnShared node node' →
      OnRecord ⟨block, config, node⟩ ⟨block, config', node'⟩

structure OnRegistry (registry registry' : Registry σ) : Prop where
  entries : List.Forall₂ l.OnEntry registry.entries registry'.entries
  issued : List.Forall₂ l.OnRecord registry.issued registry'.issued
  isOpen : registry'.isOpen = registry.isOpen

/-- Stores that differ in options only, be it in the records of blocks or in nodes. -/
structure OnStore (s s' : Store σ) : Prop where
  registries : List.Forall₂ l.OnRegistry s.registries s'.registries
  cells : s'.cells = s.cells
  identities : s'.identities = s.identities
  events : s'.events = s.events
  caller : s'.caller = s.caller

variable {l}

theorem OnNode.refl (node : Node σ) : l.OnNode node node := by
  induction node with
  | literal text => exact .literal text
  | sequence _ _ ih ih' => exact .sequence ih ih'
  | onlyIf test _ ih => exact .onlyIf test ih
  | ifElse test _ _ ih ih' => exact .ifElse test ih ih'
  | repeatingWith path itemName transform _ ih => exact .repeatingWith path itemName transform ih
  | cached cell validator _ ih => exact .cached cell validator ih
  | indented unit count _ ih => exact .indented unit count ih
  | callback call => exact .callback call
  | template t => exact .template t.content t.registry t.ownsRegistry (.inl rfl)

theorem OnShared.refl (node : Shared (Node σ)) : l.OnShared node node :=
  .intro node.identity (.refl node.value)

theorem OnRecord.refl : ∀ record : Issued σ, l.OnRecord record record
  | ⟨block, _, none⟩ => .intro block (.inl rfl) .none
  | ⟨block, _, some node⟩ => .intro block (.inl rfl) (.some (.refl node))

theorem OnRegistry.refl (registry : Registry σ) : l.OnRegistry registry registry where
  entries := List.forall₂_same.mpr fun entry _ => .same entry.1 entry.2
  issued := List.forall₂_same.mpr fun record _ => .refl record
  isOpen := rfl

theorem OnStore.refl (s : Store σ) : l.OnStore s s where
  registries := List.forall₂_same.mpr fun registry _ => .refl registry
  cells := rfl
  identities := rfl
  events := rfl
  caller := rfl

-- ---------------------------------------------------------------------------
-- Reading stores
-- ---------------------------------------------------------------------------

namespace OnStore

variable {s s' : Store σ}

theorem registry? (h : l.OnStore s s') (r : RegistryId) :
    (s.registries[r]? = none ∧ s'.registries[r]? = none) ∨
      ∃ registry registry', s.registries[r]? = some registry ∧
        s'.registries[r]? = some registry' ∧ l.OnRegistry registry registry' :=
  forall₂_getElem? h.registries r

theorem open?_isNone (h : l.OnStore s s') (r : RegistryId) :
    (s'.open? r).isNone = (s.open? r).isNone := by
  rw [Store.open?, Store.open?]
  rcases h.registry? r with ⟨hnone, hnone'⟩ | ⟨registry, registry', hsome, hsome', hrel⟩
  · rw [hnone, hnone']
  · rw [hsome, hsome', Option.filter, Option.filter, hrel.isOpen]
    split <;> rfl

theorem nextNumber (h : l.OnStore s s') (r : RegistryId) : s'.nextNumber r = s.nextNumber r := by
  rw [Store.nextNumber, Store.nextNumber]
  rcases h.registry? r with ⟨hnone, hnone'⟩ | ⟨registry, registry', hsome, hsome', hrel⟩
  · rw [hnone, hnone']
  · rw [hsome, hsome']
    exact hrel.issued.length_eq.symm

theorem entries (h : l.OnStore s s') (r : RegistryId) :
    List.Forall₂ l.OnEntry (s.entries r) (s'.entries r) := by
  rw [Store.entries, Store.entries]
  rcases h.registry? r with ⟨hnone, hnone'⟩ | ⟨registry, registry', hsome, hsome', hrel⟩
  · rw [hnone, hnone']
    exact .nil
  · rw [hsome, hsome']
    exact hrel.entries

theorem issued? (h : l.OnStore s s') (b : BlockId) :
    (s.issued? b = none ∧ s'.issued? b = none) ∨
      ∃ record record', s.issued? b = some record ∧ s'.issued? b = some record' ∧
        l.OnRecord record record' := by
  rw [Store.issued?, Store.issued?]
  rcases h.registry? b.registry with ⟨hnone, hnone'⟩ | ⟨registry, registry', hsome, hsome', hrel⟩
  · rw [hnone, hnone']
    exact .inl ⟨rfl, rfl⟩
  · rw [hsome, hsome']
    exact forall₂_getElem? hrel.issued b.number

end OnStore

/-- Related entries have the same names, and under each name related partials. -/
theorem onEntry_get? {entries entries' : Entries (Partial σ)}
    (h : List.Forall₂ l.OnEntry entries entries') (name : Text) :
    (entries.get? name = none ∧ entries'.get? name = none) ∨
      ∃ entry entry', entries.get? name = some entry ∧ entries'.get? name = some entry' ∧
        l.OnEntry (name, entry) (name, entry') := by
  induction h with
  | nil => exact .inl ⟨rfl, rfl⟩
  | @cons first first' _ _ hfirst _ ih =>
    obtain ⟨key, entry⟩ := first
    obtain ⟨key', entry'⟩ := first'
    obtain rfl : key' = key := by cases hfirst <;> rfl
    by_cases hkey : key' = name
    · subst hkey
      exact .inr ⟨entry, entry', by simp [Entries.get?], by simp [Entries.get?], hfirst⟩
    · have hskip : ∀ (entry : Partial σ) rest, Entries.get? name ((key', entry) :: rest) =
          Entries.get? name rest := fun entry rest => by simp [Entries.get?, hkey]
      rw [hskip, hskip]
      exact ih

-- ---------------------------------------------------------------------------
-- Changing stores
-- ---------------------------------------------------------------------------

theorem onEntry_insert {entries entries' : Entries (Partial σ)}
    (h : List.Forall₂ l.OnEntry entries entries') {name : Text} {entry entry' : Partial σ}
    (hentry : l.OnEntry (name, entry) (name, entry')) :
    List.Forall₂ l.OnEntry (entries.insert name entry) (entries'.insert name entry') := by
  induction h with
  | nil => exact .cons hentry .nil
  | @cons first first' _ _ hfirst hrest ih =>
    obtain ⟨key, old⟩ := first
    obtain ⟨key', old'⟩ := first'
    obtain rfl : key' = key := by cases hfirst <;> rfl
    by_cases hkey : key' = name
    · subst hkey
      simpa [Entries.insert] using ⟨hentry, hrest⟩
    · simpa [Entries.insert, hkey] using ⟨hfirst, ih⟩

namespace OnStore

variable {s s' : Store σ}

theorem modifyRegistry (h : l.OnStore s s') (r : RegistryId) {f f' : Registry σ → Registry σ}
    (hf : ∀ registry registry', l.OnRegistry registry registry' →
      l.OnRegistry (f registry) (f' registry')) :
    l.OnStore (s.modifyRegistry r f) (s'.modifyRegistry r f') :=
  ⟨forall₂_modify h.registries hf r, h.cells, h.identities, h.events, h.caller⟩

theorem emit (h : l.OnStore s s') (e : Event) : l.OnStore (s.emit e) (s'.emit e) :=
  ⟨h.registries, h.cells, h.identities, congrArg (e :: ·) h.events, h.caller⟩

theorem keep (h : l.OnStore s s') (cell : CellId) (snapshot : Option Snapshot) :
    l.OnStore (s.keep cell snapshot) (s'.keep cell snapshot) :=
  ⟨h.registries, congrArg (·.set cell snapshot) h.cells, h.identities, h.events, h.caller⟩

theorem withCaller (h : l.OnStore s s') (caller : σ) :
    l.OnStore { s with caller := caller } { s' with caller := caller } :=
  ⟨h.registries, h.cells, h.identities, h.events, rfl⟩

theorem insert (h : l.OnStore s s') (r : RegistryId) {name : Text} {entry entry' : Partial σ}
    (hentry : l.OnEntry (name, entry) (name, entry')) :
    l.OnStore (s.insert r name entry) (s'.insert r name entry') :=
  h.modifyRegistry r fun _ _ hrel => ⟨onEntry_insert hrel.entries hentry, hrel.issued, hrel.isOpen⟩

theorem issue (h : l.OnStore s s') (r : RegistryId) {config config' : Config}
    (hconfig : l.OnConfig config config') (block : Block) :
    l.OnStore (s.issue r config block) (s'.issue r config' block) := by
  have hevent := h.emit (.extracted block.kind block.placeholder (Block.reference (s.nextNumber r)))
  have hrecord : l.OnRecord (⟨block, config, none⟩ : Issued σ) ⟨block, config', none⟩ :=
    .intro block hconfig .none
  rw [Store.issue, Store.issue, h.nextNumber r]
  refine hevent.modifyRegistry r fun registry registry' hrel => ⟨?_, ?_, hrel.isOpen⟩
  · rw [hrel.issued.length_eq]
    exact onEntry_insert hrel.entries (.same _ _)
  · exact List.rel_append hrel.issued (.cons hrecord .nil)

theorem issueAll (r : RegistryId) {config config' : Config} (hconfig : l.OnConfig config config') :
    ∀ (blocks : List Block) {s s' : Store σ}, l.OnStore s s' →
      l.OnStore (s.issueAll r config blocks) (s'.issueAll r config' blocks)
  | [], _, _, h => h
  | block :: blocks, _, _, h => issueAll r hconfig blocks (h.issue r hconfig block)

theorem memoize (h : l.OnStore s s') (b : BlockId) {node node' : Shared (Node σ)}
    (hnode : l.OnShared node node') : l.OnStore (s.memoize b node) (s'.memoize b node') := by
  refine h.modifyRegistry b.registry fun _ _ hrel => ⟨hrel.entries, ?_, hrel.isOpen⟩
  refine forall₂_modify hrel.issued (fun record record' hrecord => ?_) b.number
  obtain ⟨block, hconfig, -⟩ := hrecord
  exact .intro block hconfig (.some hnode)

end OnStore

-- ---------------------------------------------------------------------------
-- Computations
-- ---------------------------------------------------------------------------

variable (l) in
/-- What two computations come to: related values and stores, the same failure, or a failure of the
first that is excused. -/
inductive OnOutcome (R : α → α → Prop) :
    Except Failure α × Store σ → Except Failure α × Store σ → Prop
  | ok {a a' : α} {s s' : Store σ} : R a a' → l.OnStore s s' → OnOutcome R (.ok a, s) (.ok a', s')
  | failed {failure : Failure} {s s' : Store σ} :
      OnOutcome R (.error failure, s) (.error failure, s')
  | excused {failure : Failure} {s : Store σ} {result : Except Failure α × Store σ} :
      l.Excuses failure → OnOutcome R (.error failure, s) result

variable (l) in
/-- Computations that come to the same in related stores, or the first is excused. -/
def OnRun (R : α → α → Prop) (x x' : Run σ α) : Prop :=
  ∀ s s', l.OnStore s s' → l.OnOutcome R (x.exec s) (x'.exec s')

section Runs

variable {R : α → α → Prop} {Q : β → β → Prop}

theorem onRun_pure {a a' : α} (h : R a a') : l.OnRun R (pure a : Run σ α) (pure a') :=
  fun _ _ hs => .ok h hs

theorem onRun_throw (failure : Failure) :
    l.OnRun R (throw failure : Run σ α) (throw failure) := fun _ _ _ => .failed

theorem OnRun.bind {x x' : Run σ α} {f f' : α → Run σ β} (hx : l.OnRun R x x')
    (hf : ∀ a a', R a a' → l.OnRun Q (f a) (f' a')) : l.OnRun Q (x >>= f) (x' >>= f') := by
  intro s s' hs
  have hfirst := hx s s' hs
  rcases hexec : x.exec s with ⟨outcome, s₁⟩
  rcases hexec' : x'.exec s' with ⟨outcome', s₁'⟩
  rw [hexec, hexec'] at hfirst
  cases hfirst with
  | ok hvalue hstore =>
    rw [Run.exec_bind_ok hexec, Run.exec_bind_ok hexec']
    exact hf _ _ hvalue _ _ hstore
  | failed =>
    rw [Run.exec_bind_error hexec, Run.exec_bind_error hexec']
    exact .failed
  | excused hexcused =>
    rw [Run.exec_bind_error hexec]
    exact .excused hexcused

theorem OnRun.bind_eq {x x' : Run σ α} {f f' : α → Run σ β} (hx : l.OnRun Eq x x')
    (hf : ∀ a, l.OnRun Q (f a) (f' a)) : l.OnRun Q (x >>= f) (x' >>= f') :=
  hx.bind fun a _ heq => heq ▸ hf a

theorem onRun_get : l.OnRun l.OnStore (get : Run σ (Store σ)) get := fun _ _ hs => .ok hs hs

theorem onRun_modifyGet {f f' : Store σ → α × Store σ}
    (h : ∀ s s', l.OnStore s s' → R (f s).1 (f' s').1 ∧ l.OnStore (f s).2 (f' s').2) :
    l.OnRun R (modifyGet f : Run σ α) (modifyGet f') :=
  fun s s' hs => .ok (h s s' hs).1 (h s s' hs).2

theorem onRun_modify {f f' : Store σ → Store σ}
    (h : ∀ s s', l.OnStore s s' → l.OnStore (f s) (f' s')) :
    l.OnRun (fun _ _ => True) (modify f : Run σ Unit) (modify f') :=
  fun s s' hs => .ok trivial (h s s' hs)

theorem onRun_emit (e : Event) : l.OnRun (fun _ _ => True) (Run.emit (σ := σ) e) (Run.emit e) :=
  onRun_modify fun _ _ hs => hs.emit e

theorem onRun_act (action : Action σ α) : l.OnRun Eq (Run.act action) (Run.act action) := by
  refine onRun_modifyGet fun s s' hs => ?_
  rw [hs.caller]
  exact ⟨rfl, hs.withCaller _⟩

theorem onRun_ofExcept : ∀ outcome : Except Error α,
    l.OnRun Eq (Run.ofExcept outcome : Run σ α) (Run.ofExcept outcome)
  | .ok _ => fun _ _ hs => .ok rfl hs
  | .error _ => fun _ _ _ => .failed

theorem onRun_requireOpen (r : RegistryId) :
    l.OnRun (fun _ _ => True) (Run.requireOpen (σ := σ) r) (Run.requireOpen r) := by
  refine onRun_get.bind fun s s' hs => ?_
  rw [hs.open?_isNone r]
  split
  · exact onRun_throw _
  · exact onRun_pure trivial

/-- A node gets the same identity. -/
theorem onRun_share {node node' : Node σ} (h : l.OnNode node node') :
    l.OnRun l.OnShared (modifyGet fun s : Store σ => s.share node : Run σ (Shared (Node σ)))
      (modifyGet fun s : Store σ => s.share node') := by
  refine onRun_modifyGet fun s s' hs => ⟨?_, hs.registries, hs.cells, ?_, hs.events, hs.caller⟩
  · rw [Store.share, Store.share, hs.identities]
    exact .intro s.identities h
  · exact congrArg (· + 1) hs.identities

theorem onRun_newCell :
    l.OnRun Eq (modifyGet Store.newCell : Run σ CellId) (modifyGet Store.newCell) := by
  refine onRun_modifyGet fun s s' hs =>
    ⟨?_, hs.registries, congrArg (· ++ [none]) hs.cells, hs.identities, hs.events, hs.caller⟩
  rw [Store.newCell, Store.newCell, hs.cells]

end Runs

-- ---------------------------------------------------------------------------
-- Compiling and building
-- ---------------------------------------------------------------------------

section Building

variable {config config' : Config}

theorem onRun_extract (hconfig : l.OnConfig config config') (r : RegistryId) (content : Text) :
    l.OnRun Eq (Run.extract (σ := σ) r config content) (Run.extract r config' content) := by
  intro s s' hs
  rw [Run.extract_exec, Run.extract_exec, hs.nextNumber r]
  exact .ok rfl (OnStore.issueAll r hconfig _ hs)

/-- A text compiles to templates that differ in their options. -/
theorem onRun_compile (hconfig : l.OnConfig config config') (r : RegistryId) (ownsRegistry : Bool)
    (content : Text) :
    l.OnRun (fun t t' => l.OnNode (.template t : Node σ) (.template t'))
      (Run.compile (σ := σ) r ownsRegistry config content)
      (Run.compile r ownsRegistry config' content) := by
  refine (onRun_requireOpen r).bind fun _ _ _ => ?_
  refine (onRun_extract hconfig r content).bind_eq fun extraction => ?_
  have ht : l.OnNode (.template ⟨extraction.residual, r, ownsRegistry, config⟩ : Node σ)
      (.template ⟨extraction.residual, r, ownsRegistry, config'⟩) :=
    .template extraction.residual r ownsRegistry hconfig
  simp only
  split
  · exact (onRun_emit _).bind fun _ _ _ => onRun_pure ht
  · exact onRun_pure ht

theorem onRun_nested (hconfig : l.OnConfig config config') (r : RegistryId) (content : Text) :
    l.OnRun l.OnNode (Run.nested (σ := σ) r config content) (Run.nested r config' content) :=
  (onRun_compile hconfig r false content).bind fun _ _ ht => onRun_pure ht

theorem onRun_buildNode (hconfig : l.OnConfig config config') (r : RegistryId) (block : Block) :
    l.OnRun l.OnShared (Run.buildNode (σ := σ) r config block) (Run.buildNode r config' block) := by
  unfold Run.buildNode
  cases block.kind with
  | conditional =>
    cases block.branches with
    | mk onTrue onFalse =>
      refine (onRun_nested hconfig r onTrue).bind fun _ _ htrue => ?_
      cases onFalse with
      | none => exact onRun_share (.onlyIf _ htrue)
      | some onFalse =>
        refine (onRun_nested hconfig r onFalse).bind fun _ _ hfalse => ?_
        exact onRun_share (.ifElse _ htrue hfalse)
  | repeating =>
    exact (onRun_nested hconfig r _).bind fun _ _ hbody => onRun_share (.repeatingWith _ _ _ hbody)
  | tabIndented =>
    exact (onRun_nested hconfig r _).bind fun _ _ hbody => onRun_share (.indented _ _ hbody)
  | spaceIndented =>
    exact (onRun_nested hconfig r _).bind fun _ _ hbody => onRun_share (.indented _ _ hbody)
  | cached =>
    have hfresh : l.OnRun l.OnShared (do
        let body ← Run.nested (σ := σ) r config block.content
        let cell ← modifyGet Store.newCell
        let node ← modifyGet fun s =>
          s.share (.cached cell (block.param.map (Validator.path r)) body)
        modify fun s => s.insert r block.slot (.block node)
        return node) (do
        let body ← Run.nested r config' block.content
        let cell ← modifyGet Store.newCell
        let node ← modifyGet fun s =>
          s.share (.cached cell (block.param.map (Validator.path r)) body)
        modify fun s => s.insert r block.slot (.block node)
        return node) := by
      refine (onRun_nested hconfig r _).bind fun _ _ hbody => onRun_newCell.bind_eq fun cell => ?_
      refine (onRun_share (.cached cell _ hbody)).bind fun _ _ hnode => ?_
      refine (onRun_modify fun _ _ hs => hs.insert r (.block _ hnode)).bind fun _ _ _ => ?_
      exact onRun_pure hnode
    refine (onRun_requireOpen r).bind fun _ _ _ => onRun_get.bind fun s s' hs => ?_
    rcases onEntry_get? (hs.entries r) block.slot with
      ⟨hnone, hnone'⟩ | ⟨entry, entry', hsome, hsome', hentry⟩
    · rw [hnone, hnone']
      exact hfresh
    · rw [hsome, hsome']
      cases hentry with
      | same =>
        cases entry with
        | block node =>
          exact (onRun_emit _).bind fun _ _ _ => onRun_pure (.refl node)
        | value => exact hfresh
        | function => exact hfresh
        | validator => exact hfresh
        | deferred => exact hfresh
      | block _ hnode => exact (onRun_emit _).bind fun _ _ _ => onRun_pure hnode

/-- The node of a block, made now or earlier, differs in options only. -/
theorem onRun_build (b : BlockId) :
    l.OnRun l.OnShared (Run.build (σ := σ) b) (Run.build b) := by
  refine onRun_get.bind fun s s' hs => ?_
  rcases hs.issued? b with ⟨hnone, hnone'⟩ | ⟨record, record', hsome, hsome', hrecord⟩
  · rw [hnone, hnone']
    exact onRun_throw _
  · rw [hsome, hsome']
    obtain ⟨block, hconfig, hnode⟩ := hrecord
    cases hnode with
    | some hnode => exact onRun_pure hnode
    | none =>
      refine (onRun_emit _).bind fun _ _ _ => ?_
      refine (onRun_buildNode hconfig b.registry block).bind fun _ _ hnode => ?_
      exact (onRun_modify fun _ _ hs => hs.memoize b hnode).bind fun _ _ _ => onRun_pure hnode

end Building

end Loosening

end Templating
