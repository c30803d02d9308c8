/-!
# Text

Templates, names and output are lists of characters, so that every scanner of the library is a
structural recursion and every statement about one an induction.

* `cut?` and `cutAt?` split a text at the first occurrence of a character or of a pattern;
* `replaceAll` puts a value in place of every occurrence of a pattern;
* `splitOn` lists the pieces between the occurrences of a character;
* `trim` takes the white space from both ends of a text;
* `indentLines` puts an indent before every line, the first included; `indentContinuation` puts it
  before every line but the first, for a text that is placed where the first line is indented
  already;
* `byteSize` measures a text in the bytes of its UTF-8 encoding, the unit in which positions are
  reported; no scanner walks by it.
-/

namespace Templating

/-- A text is the list of its characters. -/
abbrev Text := List Char

namespace Text

/-! ## Measure -/

/-- The number of bytes of the UTF-8 encoding. -/
def byteSize : Text → Nat
  | [] => 0
  | c :: rest => c.utf8Size + byteSize rest

/-- The longest beginning of a text that has at most `n` bytes. -/
def takeBytes : Nat → Text → Text
  | _, [] => []
  | n, c :: rest => if c.utf8Size ≤ n then c :: takeBytes (n - c.utf8Size) rest else []

/-! ## Search -/

/-- The parts before and after the first `c`. -/
def cut? (c : Char) : Text → Option (Text × Text)
  | [] => none
  | d :: rest =>
    if d = c then some ([], rest)
    else (cut? c rest).map fun (before, after) => (d :: before, after)

/-- Whether the text begins with `pattern`. -/
def startsWith : (pattern text : Text) → Bool
  | [], _ => true
  | _ :: _, [] => false
  | p :: pattern, c :: text => p == c && startsWith pattern text

/-- Whether a character followed by a text occurs in the text. -/
def containsFrom (p : Char) (pattern : Text) : Text → Bool
  | [] => false
  | c :: rest => (p == c && startsWith pattern rest) || containsFrom p pattern rest

/-- Whether `pattern` occurs in the text. -/
def containsPattern : (pattern text : Text) → Bool
  | [], _ => true
  | p :: pattern, text => containsFrom p pattern text

/-- Whether an occurrence of `pattern` begins at one of the first `n` characters of the text. -/
def containsWithin (pattern : Text) : (n : Nat) → Text → Bool
  | 0, _ | _, [] => false
  | n + 1, text@(_ :: rest) => startsWith pattern text || containsWithin pattern n rest

/-- The parts before and after the first occurrence of `pattern`; in a text without one, all of it
and nothing. -/
def around (pattern : Text) : Text → Text × Text
  | [] => ([], [])
  | text@(c :: rest) =>
    if startsWith pattern text then ([], text.drop pattern.length)
    else
      let (before, after) := around pattern rest
      (c :: before, after)

/-- The parts before and after the first occurrence of `pattern`. -/
def cutAt? (pattern text : Text) : Option (Text × Text) :=
  if containsPattern pattern text then some (around pattern text) else none

/-- The pieces between the occurrences of `c`; one more than there are occurrences. -/
def splitOn (c : Char) : Text → List Text
  | [] => [[]]
  | d :: rest =>
    match splitOn c rest with
    | [] => [[d]]
    | piece :: pieces => if d = c then [] :: piece :: pieces else (d :: piece) :: pieces

/-! ## Replacement -/

/-- Replacement from left to right; `skip` counts the characters of the occurrence just replaced
that are still to be passed over. -/
def replaceFrom (pattern value : Text) : (skip : Nat) → Text → Text
  | _, [] => []
  | skip + 1, _ :: rest => replaceFrom pattern value skip rest
  | 0, text@(c :: rest) =>
    if startsWith pattern text then
      value ++ replaceFrom pattern value (pattern.length - 1) rest
    else
      c :: replaceFrom pattern value 0 rest

/-- The text with `value` in place of every occurrence of the non-empty `pattern`, taken from
left to right without overlap. -/
def replaceAll (pattern value text : Text) : Text := replaceFrom pattern value 0 text

/-! ## White space -/

/-- Whether a character has the Unicode property `White_Space`. It is wider than the ASCII blanks:
the no-break space and the ideographic space have it, the zero-width no-break space U+FEFF does
not. -/
def isWhiteSpace (c : Char) : Bool :=
  let n := c.toNat
  (9 ≤ n && n ≤ 13) || n == 0x20 || n == 0x85 || n == 0xA0 || n == 0x1680
    || (0x2000 ≤ n && n ≤ 0x200A) || n == 0x2028 || n == 0x2029 || n == 0x202F || n == 0x205F
    || n == 0x3000

/-- The text without the white space it begins with. -/
def trimStart (t : Text) : Text := t.dropWhile isWhiteSpace

/-- The text without the white space it ends with. -/
def trimEnd (t : Text) : Text := (t.reverse.dropWhile isWhiteSpace).reverse

/-- The text without the white space at both ends. -/
def trim (t : Text) : Text := trimEnd (trimStart t)

/-! ## Indentation -/

/-- The text with `indent` after every line feed. -/
def indentContinuation (indent text : Text) : Text :=
  text.flatMap fun c => if c = '\n' then '\n' :: indent else [c]

/-- The text with `indent` before every line; an empty last line gets one too. -/
def indentLines (indent text : Text) : Text :=
  indent ++ indentContinuation indent text

/-- Whether a character can be part of an indent: a space or a tab. -/
def isIndent (c : Char) : Bool := c == ' ' || c == '\t'

/-- The run of spaces and tabs that a text ends with, given the text from its end. -/
def indentOfReversed (t : Text) : Text := (t.takeWhile isIndent).reverse

/-- The run of spaces and tabs that a text ends with. -/
def trailingIndent (t : Text) : Text := indentOfReversed t.reverse

/-! ## Decimal digits -/

/-- Whether a character is one of `0` to `9`. -/
def isDigit (c : Char) : Bool := '0' ≤ c && c ≤ '9'

/-- The number that a run of digits writes. -/
def natOfDigits (digits : Text) : Nat :=
  digits.foldl (fun n c => 10 * n + (c.toNat - '0'.toNat)) 0

/-- The decimal digits of a number. -/
def ofNat (n : Nat) : Text := Nat.toDigits 10 n

/-- The decimal text of an integer, with a minus sign when it is negative. -/
def ofInt : Int → Text
  | .ofNat n => ofNat n
  | .negSucc n => '-' :: ofNat (n + 1)

/-- The numbers that count things are below this. -/
def indexLimit : Nat := Nat.pow 2 64

/-- A number below 2^64 in decimal digits, an optional `+` in front. -/
def readIndex? (t : Text) : Option Nat :=
  let digits := match t with
    | '+' :: rest => rest
    | _ => t
  if digits ≠ [] ∧ digits.all isDigit ∧ natOfDigits digits < indexLimit then
    some (natOfDigits digits)
  else
    none

end Text

end Templating
