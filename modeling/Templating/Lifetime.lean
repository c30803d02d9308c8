import Templating.Store

/-!
# How long registries stay open

A registry has owners: whoever the caller of the library is holding it for, templates that were
compiled by a caller, and what holds those in turn. Templates made from the content of blocks and
the blocks themselves are no owners. When the last owner is gone the registry closes for good, and
blocks that are still around can no longer be built or rendered.

A registry that is held only by its own entries has an owner and never closes.
-/

namespace Templating

variable {σ : Type}

/-! ## What is held -/

namespace Holdings

/-- Nothing. -/
def none : Holdings := ⟨[], []⟩

/-- What both hold. -/
def append (a b : Holdings) : Holdings := ⟨a.registries ++ b.registries, a.blocks ++ b.blocks⟩

instance : Append Holdings := ⟨append⟩

/-- What all hold. -/
def concat (all : List Holdings) : Holdings := all.foldr append none

end Holdings

/-- A template holds its registry if it owns it. -/
def Template.holdings (t : Template) : Holdings :=
  ⟨if t.ownsRegistry then [t.registry] else [], []⟩

/-- A node holds what the templates in it hold. -/
def Node.holdings : Node σ → Holdings
  | literal _ | callback _ => .none
  | sequence first second => first.holdings ++ second.holdings
  | onlyIf _ body => body.holdings
  | ifElse _ onTrue onFalse => onTrue.holdings ++ onFalse.holdings
  | repeatingWith _ _ _ body | cached _ _ body | indented _ _ body => body.holdings
  | template t => t.holdings

/-- A partial holds what is in it, a block of a template without the registry it belongs to. -/
def Partial.holdings : Partial σ → Holdings
  | value _ | validator _ => .none
  | function _ _ holdings => holdings
  | block node => node.value.holdings
  | deferred b => ⟨[], [b]⟩

/-! ## Closing -/

namespace Store

/-- The registries that something holds; a block holds what its node holds, once it has one. -/
def registriesOf (s : Store σ) (holdings : Holdings) : List RegistryId :=
  holdings.registries ++ holdings.blocks.flatMap fun b =>
    match (s.issued? b).bind (·.node) with
    | some node => node.value.holdings.registries
    | none => []

/-- The registries that the roots or an entry of an open registry hold. -/
def heldRegistries (s : Store σ) (roots : Holdings) : List RegistryId :=
  s.registriesOf roots ++ s.registries.flatMap fun registry =>
    if registry.isOpen then
      registry.entries.flatMap fun (_, entry) => s.registriesOf entry.holdings
    else []

/-- Closes the registries that nothing holds. -/
def closeUnheld (s : Store σ) (roots : Holdings) : Store σ :=
  let held := s.heldRegistries roots
  { s with registries := s.registries.mapIdx fun r registry =>
      { registry with isOpen := registry.isOpen && held.contains r } }

/-- How many registries are open. -/
def openCount (s : Store σ) : Nat := s.registries.countP (·.isOpen)

/-- Closes registries round by round, since each round may leave others unheld, and stops at the
first that finds none to close. -/
def closeRounds (roots : Holdings) : (rounds : Nat) → Store σ → Store σ
  | 0, s => s
  | rounds + 1, s =>
    let closed := s.closeUnheld roots
    if closed.openCount < s.openCount then closeRounds roots rounds closed else s

/-- Closes registries until every open one is held. Each round but the last closes one, so there
are at most as many rounds as registries. -/
def release (s : Store σ) (roots : Holdings) : Store σ :=
  closeRounds roots s.registries.length s

end Store

end Templating
