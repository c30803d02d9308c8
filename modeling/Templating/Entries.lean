import Templating.Text

/-!
# Entries

Named entries in the order in which their names were first inserted. Replacing an entry keeps its
place, erasing one keeps the order of the others, and a name that comes back after it was erased
comes last.
-/

namespace Templating

/-- Named entries, in the order of insertion. -/
abbrev Entries (α : Type) := List (Text × α)

namespace Entries

variable {α : Type}

/-- The entry of a name. -/
def get? (name : Text) : Entries α → Option α
  | [] => none
  | (key, entry) :: rest => if key == name then some entry else get? name rest

/-- Whether there is an entry of a name. -/
def contains (name : Text) (entries : Entries α) : Bool := (entries.get? name).isSome

/-- The entries with a name bound to `entry`: in place if the name is there, else at the end. -/
def insert (name : Text) (entry : α) : Entries α → Entries α
  | [] => [(name, entry)]
  | (key, old) :: rest =>
    if key == name then (key, entry) :: rest else (key, old) :: insert name entry rest

/-- The entries without that of a name. -/
def erase (name : Text) : Entries α → Entries α
  | [] => []
  | (key, entry) :: rest => if key == name then rest else (key, entry) :: erase name rest

/-- The names, in the order of the entries. -/
def names (entries : Entries α) : List Text := entries.map Prod.fst

/-- The entries with others inserted one after the other. -/
def insertAll (entries new : Entries α) : Entries α :=
  new.foldl (fun entries (name, entry) => entries.insert name entry) entries

/-- The entries that inserting pairs one after the other makes. -/
def ofList (pairs : List (Text × α)) : Entries α := insertAll [] pairs

end Entries

end Templating
