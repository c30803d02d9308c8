import Templating.Entries
import Templating.Log
import Templating.Node

/-!
# The store

All state of the library: the registries with their partials and the blocks issued in them, the
outputs of cached nodes, the log, and the state of the caller.

Numbers are given out in order and never again, so a registry, a cell, or a block of a registry is
addressed by its position in a list that only grows at its end.

* `Store.issue` registers a block under the next number of a registry;
* `Store.memoize` keeps the node of a block for all later uses;
* `Store.keep` and `Store.snapshot?` write and read the output of a cached node.
-/

namespace Templating

variable {σ : Type}

/-- What a cached node keeps of its last rendering. -/
structure Snapshot where
  output : Text
  params : Value

/-- A block that was taken out of a template, with the options of the template and, once it has
been used, its node. -/
structure Issued (σ : Type) where
  block : Block
  config : Config
  node : Option (Shared (Node σ))

/-- A registry. The number of the next block is the number of blocks issued so far; an issued block
stays on record even when its entry is replaced or removed. A registry is open as long as it has an
owner. -/
structure Registry (σ : Type) where
  entries : Entries (Partial σ)
  issued : List (Issued σ)
  isOpen : Bool

/-- The state of the library. -/
structure Store (σ : Type) where
  registries : List (Registry σ)
  cells : List (Option Snapshot)
  /-- How many identities have been given out. -/
  identities : Nat
  /-- The events since the log was last read, latest first. -/
  events : List Event
  /-- The state of the caller. -/
  caller : σ

namespace Store

/-- A store without registries. -/
def empty (caller : σ) : Store σ := ⟨[], [], 0, [], caller⟩

/-! ## Registries -/

/-- A registry that is open. -/
def open? (s : Store σ) (r : RegistryId) : Option (Registry σ) :=
  s.registries[r]?.filter (·.isOpen)

/-- The store after a change to one registry. -/
def modifyRegistry (s : Store σ) (r : RegistryId) (f : Registry σ → Registry σ) : Store σ :=
  { s with registries := s.registries.modify r f }

/-- A new registry with the given entries. -/
def newRegistry (s : Store σ) (entries : Entries (Partial σ)) : RegistryId × Store σ :=
  (s.registries.length, { s with registries := s.registries ++ [⟨entries, [], true⟩] })

/-- The entries of a registry; none if there is no such registry. -/
def entries (s : Store σ) (r : RegistryId) : Entries (Partial σ) :=
  match s.registries[r]? with
  | some registry => registry.entries
  | none => []

/-- The store with an entry inserted into a registry. -/
def insert (s : Store σ) (r : RegistryId) (name : Text) (entry : Partial σ) : Store σ :=
  s.modifyRegistry r fun registry => { registry with entries := registry.entries.insert name entry }

/-- The store with an entry removed from a registry. -/
def erase (s : Store σ) (r : RegistryId) (name : Text) : Store σ :=
  s.modifyRegistry r fun registry => { registry with entries := registry.entries.erase name }

/-! ## Blocks -/

/-- The record of an issued block. -/
def issued? (s : Store σ) (b : BlockId) : Option (Issued σ) :=
  s.registries[b.registry]?.bind fun registry => registry.issued[b.number]?

/-- The number of the next block of a registry. -/
def nextNumber (s : Store σ) (r : RegistryId) : Nat :=
  match s.registries[r]? with
  | some registry => registry.issued.length
  | none => 0

/-- Puts a block on record under the next number of a registry and registers it. -/
def issue (s : Store σ) (r : RegistryId) (config : Config) (block : Block) : Store σ :=
  let name := Block.reference (s.nextNumber r)
  let s := { s with events := .extracted block.kind block.placeholder name :: s.events }
  s.modifyRegistry r fun registry =>
    { registry with
      entries := registry.entries.insert name (.deferred ⟨r, registry.issued.length⟩)
      issued := registry.issued ++ [⟨block, config, none⟩] }

/-- Keeps the node of an issued block. -/
def memoize (s : Store σ) (b : BlockId) (node : Shared (Node σ)) : Store σ :=
  s.modifyRegistry b.registry fun registry =>
    { registry with
      issued := registry.issued.modify b.number fun issued => { issued with node := some node } }

/-! ## Cached outputs -/

/-- A new cell, with nothing kept in it. -/
def newCell (s : Store σ) : CellId × Store σ :=
  (s.cells.length, { s with cells := s.cells ++ [none] })

/-- What a cell keeps. -/
def snapshot? (s : Store σ) (cell : CellId) : Option Snapshot := (s.cells[cell]?).join

/-- The store with a cell keeping something else. -/
def keep (s : Store σ) (cell : CellId) (snapshot : Option Snapshot) : Store σ :=
  { s with cells := s.cells.set cell snapshot }

/-! ## Identities and events -/

/-- A thing with an identity of its own. -/
def share {α : Type} (s : Store σ) (value : α) : Shared α × Store σ :=
  (⟨s.identities, value⟩, { s with identities := s.identities + 1 })

/-- The store after an event. -/
def emit (s : Store σ) (e : Event) : Store σ := { s with events := e :: s.events }

/-- The events since this was last asked for, in order. -/
def takeEvents (s : Store σ) : List Event × Store σ :=
  (s.events.reverse, { s with events := [] })

end Store

end Templating
