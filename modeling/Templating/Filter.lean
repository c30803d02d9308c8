import Templating.Error
import Templating.Text.Case
import Templating.Value.Coercion

/-!
# Filters

A filter stands behind a bar in a tag and is applied once to the value of the tag before the value
is written. String filters ask for a string and array filters for an array; number filters take the
number that anything begins with, so an absent value is NaN to them.

All number filters work on binary64 numbers.
-/

namespace Templating

/-- The filters, in the order of the documentation. -/
inductive Filter where
  | upper
  | lower
  | capitalize
  | trim
  | abs
  | round
  | floor
  | ceil
  | first
  | last
  | min
  | max
  | stringify
  deriving DecidableEq

namespace Filter

/-- All filters, in the order of the documentation. -/
def all : List Filter :=
  [upper, lower, capitalize, trim, abs, round, floor, ceil, first, last, min, max, stringify]

/-- The name of a filter in a tag. -/
def name : Filter → Text
  | upper => "upper".toList
  | lower => "lower".toList
  | capitalize => "capitalize".toList
  | trim => "trim".toList
  | abs => "abs".toList
  | round => "round".toList
  | floor => "floor".toList
  | ceil => "ceil".toList
  | first => "first".toList
  | last => "last".toList
  | min => "min".toList
  | max => "max".toList
  | stringify => "stringify".toList

/-- The filter of a name. -/
def ofName (name : Text) : Except Error Filter :=
  match all.find? fun f => f.name = name with
  | some f => .ok f
  | none => .error (.unknownFilter name)

/-! ## Operands -/

/-- The string that a string filter asks for. -/
def expectString (filter : Filter) : Option Value → Except Error Text
  | some (.string t) => .ok t
  | other => .error (.expectsString filter.name (Shape.of other))

/-- The array that an array filter asks for. -/
def expectArray (filter : Filter) : Option Value → Except Error (List Value)
  | some (.array items) => .ok items
  | other => .error (.expectsArray filter.name (Shape.of other))

/-- The number that a number filter works on. -/
def operand : Option Value → Double
  | some value => value.leadingNumber
  | none => .nan

/-! ## Application -/

/-- The value of a filter on strings. -/
def onString (filter : Filter) (f : Text → Text) (value : Option Value) :
    Except Error (Option Value) :=
  (filter.expectString value).map fun t => some (.string (f t))

/-- The value of a filter on numbers. -/
def onNumber (f : Double → Double) (value : Option Value) : Except Error (Option Value) :=
  .ok (some (Value.ofDouble (f (operand value))))

/-- The value of a filter on arrays. -/
def onArray (filter : Filter) (f : List Value → Option Value) (value : Option Value) :
    Except Error (Option Value) :=
  (filter.expectArray value).map f

/-- The value that a filter makes of a value, where `none` is an absent one. -/
def apply (filter : Filter) (value : Option Value) : Except Error (Option Value) :=
  match filter with
  | upper => onString filter Text.upper value
  | lower => onString filter Text.lower value
  | capitalize => onString filter Text.capitalize value
  | trim => onString filter Text.trim value
  | abs => onNumber Double.abs value
  | round => onNumber Double.roundHalfUp value
  | floor => onNumber Double.floor value
  | ceil => onNumber Double.ceil value
  | first => onArray filter List.head? value
  | last => onArray filter List.getLast? value
  | min => onArray filter (fun items => some (Value.ofDouble
      ((items.map Value.wholeNumber).foldl Double.least (.infinite false)))) value
  | max => onArray filter (fun items => some (Value.ofDouble
      ((items.map Value.wholeNumber).foldl Double.greatest (.infinite true)))) value
  | stringify => .ok (value.map fun v => .string v.json)

/-- The value that the filter of a name makes of a value. -/
def applyNamed (name : Text) (value : Option Value) : Except Error (Option Value) :=
  (ofName name).bind fun filter => filter.apply value

end Filter

end Templating
