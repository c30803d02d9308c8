import Templating.Double

/-!
# Values

Parameters, literal partials and loop contexts are values of one shape: null, booleans, numbers,
strings, arrays, and objects whose members are kept in the order of their keys.

* `Members.insert` and `Members.get?` are the two operations on the members of an object;
* `Value.resolve?` follows a path into a value;
* `Value.equals` compares values; an integer never equals a number with a fraction part, even where
  the two are the same number.
-/

namespace Templating

/-- A number is an integer as it was written, or a binary64 number. -/
inductive Number where
  | int (n : Int)
  | double (x : Double)
  deriving DecidableEq

/-- A value of the parameters. -/
inductive Value where
  | null
  | bool (b : Bool)
  | number (n : Number)
  | string (text : Text)
  | array (items : List Value)
  | object (members : List (Text × Value))

/-- The members of an object, in the order of their keys. -/
abbrev Members := List (Text × Value)

/-! ## Numbers -/

namespace Number

/-- The binary64 number nearest to a number. -/
def toDouble : Number → Double
  | int n => Double.ofInt n
  | double x => x

/-- Integers equal integers, binary64 numbers equal binary64 numbers. -/
def equals : Number → Number → Bool
  | int a, int b => a == b
  | double x, double y => x.equals y
  | _, _ => false

end Number

/-! ## Objects -/

namespace Members

/-- The value of a key. -/
def get? (key : Text) : Members → Option Value
  | [] => none
  | (k, v) :: rest => if k == key then some v else get? key rest

/-- The members with `key` bound to `value`, in the place that the order of the keys gives it. -/
def insert (key : Text) (value : Value) : Members → Members
  | [] => [(key, value)]
  | (k, v) :: rest =>
    if k == key then (key, value) :: rest
    else if key < k then (key, value) :: (k, v) :: rest
    else (k, v) :: insert key value rest

/-- The members `outer` with those of `scope` laid over them. -/
def overlay (outer scope : Members) : Members :=
  scope.foldl (fun merged (key, value) => insert key value merged) outer

end Members

namespace Value

/-- The value of a key, if the value is an object that has it. -/
def member? (key : Text) : Value → Option Value
  | object members => Members.get? key members
  | _ => none

/-- The members of an object; no other value has any. -/
def members : Value → Members
  | object members => members
  | _ => []

/-- The members of `outer` overlaid with those of `scope`. A value that is no object contributes
none. -/
def overlay (outer scope : Value) : Members :=
  Members.overlay outer.members scope.members

/-- An integer as a value. -/
def ofNat (n : Nat) : Value := number (.int n)

/-! ## Paths

A path is a text of segments with points between them. Each segment takes one step into a value:
a member of an object by its key, an item of an array by its position. A path that cannot take a
step leads nowhere, so a value that is absent in the middle makes the whole path absent.
-/

/-- The character between two segments of a path. -/
def pathSeparator : Char := '.'

/-- One step into a value. -/
def step? (value : Value) (segment : Text) : Option Value :=
  match value with
  | object members => Members.get? segment members
  | array items => (Text.readIndex? segment).bind fun index => items[index]?
  | _ => none

/-- The value that the segments lead to. -/
def walk? : List Text → Value → Option Value
  | [], value => some value
  | segment :: segments, value => (value.step? segment).bind (walk? segments)

/-- The value that a path leads to. -/
def resolve? (path : Text) (value : Value) : Option Value :=
  walk? (Text.splitOn pathSeparator path) value

/-! ## Equality -/

mutual

/-- Whether two values are equal, numbers by their numeric value. -/
def equals : Value → Value → Bool
  | null, null => true
  | bool a, bool b => a == b
  | number m, number n => m.equals n
  | string s, string t => s == t
  | array xs, array ys => equalItems xs ys
  | object xs, object ys => equalMembers xs ys
  | _, _ => false

/-- Whether two lists of values are equal one by one. -/
def equalItems : List Value → List Value → Bool
  | [], [] => true
  | x :: xs, y :: ys => equals x y && equalItems xs ys
  | _, _ => false

/-- Whether two objects have equal members in the same order. -/
def equalMembers : List (Text × Value) → List (Text × Value) → Bool
  | [], [] => true
  | (j, x) :: xs, (k, y) :: ys => j == k && equals x y && equalMembers xs ys
  | _, _ => false

end

instance : BEq Value := ⟨equals⟩

end Value

end Templating
