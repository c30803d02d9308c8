import Templating.Value
import Templating.Double.Shortest

/-!
# Compact JSON

The text of a value as JSON without blanks. Members stand in the order of their keys, integers have
their own digits, and of the characters only the quote, the backslash and the controls below U+0020
are escaped. An infinite number or NaN has no JSON form and is written as null; the filters never
store one in a value.
-/

namespace Templating.Value

/-! ## Strings -/

/-- A digit of the hexadecimal system in lower case. -/
def hexDigit (n : Nat) : Char :=
  if n < 10 then Char.ofNat ('0'.toNat + n) else Char.ofNat ('a'.toNat + (n - 10))

/-- A character as it stands between quotes. -/
def jsonChar (c : Char) : Text :=
  if c = '"' then ['\\', '"']
  else if c = '\\' then ['\\', '\\']
  else if c = '\n' then ['\\', 'n']
  else if c = '\r' then ['\\', 'r']
  else if c = '\t' then ['\\', 't']
  else if c.toNat = 8 then ['\\', 'b']
  else if c.toNat = 12 then ['\\', 'f']
  else if c.toNat < 0x20 then
    ['\\', 'u', '0', '0', hexDigit (c.toNat / 16), hexDigit (c.toNat % 16)]
  else [c]

/-- A text between quotes. -/
def jsonString (t : Text) : Text := '"' :: (t.flatMap jsonChar ++ ['"'])

/-! ## Numbers -/

/-- The digits of a number. -/
def jsonNumber : Number → Text
  | .int n => Text.ofInt n
  | .double (.finite negative code) => Double.Layout.json.text negative code
  | .double _ => "null".toList

/-! ## Values -/

mutual

/-- The compact JSON text of a value. -/
def json : Value → Text
  | null => "null".toList
  | bool b => (if b then "true" else "false").toList
  | number n => jsonNumber n
  | string t => jsonString t
  | array items => '[' :: (jsonItems items ++ [']'])
  | object members => '{' :: (jsonMembers members ++ ['}'])

/-- The items of an array with commas between them. -/
def jsonItems : List Value → Text
  | [] => []
  | [item] => json item
  | item :: rest => json item ++ ',' :: jsonItems rest

/-- The members of an object with commas between them. -/
def jsonMembers : List (Text × Value) → Text
  | [] => []
  | [(key, value)] => jsonString key ++ ':' :: json value
  | (key, value) :: rest => jsonString key ++ ':' :: (json value ++ ',' :: jsonMembers rest)

end

end Templating.Value
