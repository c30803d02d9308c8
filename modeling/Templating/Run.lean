import Templating.Store

/-!
# Computations on the store

A computation changes the store and may fail; what it did before it failed stays done. The depth of
nested references is limited, and a computation that runs into the limit fails with `tooDeep`, apart
from every error of the domain.
-/

namespace Templating

/-- Why a computation has no result. -/
inductive Failure where
  | error (e : Error)
  /-- References are nested deeper than the limit. -/
  | tooDeep
  deriving DecidableEq

/-- A computation on the store. -/
abbrev Run (σ : Type) := ExceptT Failure (StateM (Store σ))

namespace Run

variable {σ α : Type}

/-- The outcome of a computation and the store that it leaves. -/
def exec (x : Run σ α) (s : Store σ) : Except Failure α × Store σ := x.run.run s

/-- Fails with an error. -/
def fail (e : Error) : Run σ α := throw (.error e)

/-- An outcome as a computation. -/
def ofExcept : Except Error α → Run σ α
  | .ok a => pure a
  | .error e => fail e

/-- Records an event. -/
def emit (e : Event) : Run σ Unit := modify fun s => s.emit e

/-- Lets the caller act on its state. -/
def act (action : Action σ α) : Run σ α :=
  modifyGet fun s =>
    let (a, caller) := action s.caller
    (a, { s with caller := caller })

/-- Fails unless a registry is open. -/
def requireOpen (r : RegistryId) : Run σ Unit := do
  let s ← get
  if (s.open? r).isNone then fail .registryDropped

end Run

end Templating
