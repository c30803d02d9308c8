import Templating.Double.Decimal
import Templating.Error
import Templating.Value.Json

/-!
# Coercions

What a value stands for where a text, a truth value, a number or a key is asked for.

Two notions of truth live side by side. A conditional block goes by `isFalsy`, for which an empty
array and an empty object are false; the validator of a cached block goes by `isTruthy`, for which
every array and object is true.
-/

namespace Templating.Value

/-! ## Text -/

/-- A number in rendered output: an integer with its own digits, any other formatted. -/
def numberText : Number → Text
  | .int n => Text.ofInt n
  | .double x => x.format

/-- The text that stands for a value in rendered output. -/
def toText : Value → Text
  | string t => t
  | number n => numberText n
  | bool b => (if b then "true" else "false").toList
  | null => []
  | value => value.json

/-! ## Truth -/

/-- Null, false, zero and everything empty. -/
def isFalsy : Value → Bool
  | null => true
  | bool b => !b
  | number n => n.toDouble.isZero
  | string t => t.isEmpty
  | array items => items.isEmpty
  | object members => members.isEmpty

/-- All but null, false, zero, NaN and the empty string. -/
def isTruthy : Value → Bool
  | null => false
  | bool b => b
  | number n => !n.toDouble.isZero && !n.toDouble.isNan
  | string t => !t.isEmpty
  | _ => true

/-- Falsiness of a value that may be absent; an absent one is falsy. -/
def isFalsyOrAbsent (value : Option Value) : Bool := value.all isFalsy

/-- Truthiness of a value that may be absent; an absent one is not truthy. -/
def isTruthyAndPresent (value : Option Value) : Bool := value.any isTruthy

/-! ## Numbers -/

/-- A number as a value. What JSON has no number for is kept as its text. -/
def ofDouble (x : Double) : Value :=
  if x.isFinite then number (.double x) else string x.format

/-- The number that a value begins with: a number itself, the leading numeral of a string, and NaN
for anything else. -/
def leadingNumber : Value → Double
  | number n => n.toDouble
  | string t => Double.ofLeading t
  | _ => .nan

/-- The number that a value is as a whole: null and blank strings are zero, true is one, and a
string that is no number, an array or an object is NaN. -/
def wholeNumber : Value → Double
  | number n => n.toDouble
  | bool b => if b then Double.ofInt 1 else Double.zero
  | null => Double.zero
  | string t =>
    let trimmed := Text.trim t
    if trimmed = [] then Double.zero else (Double.ofText? trimmed).getD .nan
  | _ => .nan

/-! ## Keys

A caller may give data as pairs whose keys are values. A string is its own key; integers, finite
numbers and truth values are keys by their JSON text; nothing else can be a key.
-/

/-- The text of a value as a key. -/
def keyText? : Value → Option Text
  | string t => some t
  | number (.int n) => some (Text.ofInt n)
  | number (.double x) => if x.isFinite then some (jsonNumber (.double x)) else none
  | bool b => some (if b then "true" else "false").toList
  | _ => none

/-- The object of some pairs; of two with the same key the later one counts. -/
def ofPairs : List (Value × Value) → Except Error Value
  | pairs => (go pairs []).map object
where
  /-- The members so far, with the remaining pairs inserted. -/
  go : List (Value × Value) → Members → Except Error Members
    | [], members => .ok members
    | (key, value) :: rest, members =>
      match keyText? key with
      | some key => go rest (Members.insert key value members)
      | none => .error .keyNotText

end Templating.Value
