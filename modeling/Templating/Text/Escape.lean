import Templating.Text

/-!
# Escaping for markup

A text is escaped one UTF-16 code unit at a time: a unit of the safe set stands for itself, every
other one becomes a decimal character reference. A character outside the Basic Multilingual Plane
has two units and so becomes two references.

Because a line feed is not safe, an escaped text has one line; a multi-line value therefore keeps
its form wherever it is substituted.
-/

namespace Templating.Text

/-- The UTF-16 code units of a character. -/
def unitsOfChar (c : Char) : List Nat :=
  let n := c.toNat
  if n < 0x10000 then [n]
  else [0xD800 + (n - 0x10000) / 0x400, 0xDC00 + (n - 0x10000) % 0x400]

/-- The UTF-16 code units of a text. -/
def units (t : Text) : List Nat := t.flatMap unitsOfChar

/-- Space, `!` and the printable range from `#` to `~`, except for `<`, `>` and `&`. -/
def isSafeUnit (unit : Nat) : Bool :=
  unit != 0x3C && unit != 0x3E && unit != 0x26
    && (unit == 0x20 || unit == 0x21 || (0x23 ≤ unit && unit ≤ 0x7E))

/-- A safe unit is ASCII and stands for itself; any other is written as a reference. -/
def escapeUnit (unit : Nat) : Text :=
  if isSafeUnit unit then [Char.ofNat unit] else '&' :: '#' :: (ofNat unit ++ [';'])

/-- Whether a text can be put into markup as it is. -/
def isPlain (t : Text) : Bool := (units t).all isSafeUnit

/-- The text with a reference in place of every unit that is not safe. -/
def escape (t : Text) : Text := (units t).flatMap escapeUnit

/-- What escaping a text gives: the text itself, passed through because nothing in it needs a
reference, or a new text. -/
inductive Escaped where
  | passed (t : Text)
  | written (t : Text)
  deriving DecidableEq

/-- The escaped text. -/
def Escaped.text : Escaped → Text
  | passed t => t
  | written t => t

/-- Escapes a text; one that can be put into markup as it is passes through. -/
def escapeShared (t : Text) : Escaped := if isPlain t then .passed t else .written (escape t)

end Templating.Text
