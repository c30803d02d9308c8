import Templating.Double

/-!
# Reading decimal numbers

Two readers of decimal text. `Double.ofText?` reads a whole text, `Double.ofLeading` what a text
begins with. The second finds the longest numeral at the beginning with `numeralAt?` and hands it
to the first:

    numeral  = [sign] (digits ["." [digits]] | "." digits) [("e" | "E") [sign] digits]

A whole text may also be one of the words `inf`, `infinity` and `nan` in any case.
-/

namespace Templating.Double

/-- The number nearest to `digits · 10^exponent`. Exponents that are out of reach are recognised
before the power is taken. -/
def ofDecimal (negative : Bool) (digits : Nat) (exponent : Int) : Double :=
  if digits = 0 then
    ofRatio negative 0 1
  else if 400 < exponent then
    infinite negative
  else if (Text.ofNat digits).length + exponent < -400 then
    ofRatio negative 0 1
  else
    match exponent with
    | .ofNat e => ofRatio negative (digits * Nat.pow 10 e) 1
    | .negSucc e => ofRatio negative digits (Nat.pow 10 (e + 1))

/-! ## Whole texts -/

/-- Whether a text begins with a minus sign, and what follows its sign. -/
def splitSign : Text → Bool × Text
  | '-' :: rest => (true, rest)
  | '+' :: rest => (false, rest)
  | rest => (false, rest)

/-- The digits at the beginning of a text and what follows them. -/
def splitDigits (t : Text) : Text × Text :=
  (t.takeWhile Text.isDigit, t.dropWhile Text.isDigit)

/-- The digits after a decimal point, none if there is no point, and what follows. -/
def splitFraction : Text → Text × Text
  | '.' :: rest => splitDigits rest
  | rest => ([], rest)

/-- The value of an exponent that ends the text; without one it is zero. -/
def exponent? : Text → Option Int
  | [] => some 0
  | c :: rest =>
    if c = 'e' ∨ c = 'E' then
      let (negative, rest) := splitSign rest
      let (digits, rest) := splitDigits rest
      if digits = [] ∨ rest ≠ [] then none
      else
        let n : Int := Text.natOfDigits digits
        some (if negative then -n else n)
    else none

/-- The number that a numeral without its sign writes. -/
def ofUnsigned? (negative : Bool) (t : Text) : Option Double :=
  let (whole, rest) := splitDigits t
  let (fraction, rest) := splitFraction rest
  if whole = [] ∧ fraction = [] then none
  else
    (exponent? rest).map fun e =>
      ofDecimal negative (Text.natOfDigits (whole ++ fraction)) (e - fraction.length)

/-- The number that a whole text writes. -/
def ofText? (t : Text) : Option Double :=
  let (negative, rest) := splitSign t
  let word := rest.map Char.toLower
  if word = "inf".toList ∨ word = "infinity".toList then some (infinite negative)
  else if word = "nan".toList then some nan
  else ofUnsigned? negative rest

/-! ## Leading numerals -/

/-- The sign at the beginning of a text. -/
def signAt : Text → Text
  | '-' :: _ => ['-']
  | '+' :: _ => ['+']
  | _ => []

/-- The exponent at the beginning of a text; without a digit it is no exponent. -/
def exponentAt : Text → Text
  | [] => []
  | c :: rest =>
    if c = 'e' ∨ c = 'E' then
      let sign := signAt rest
      let digits := (rest.drop sign.length).takeWhile Text.isDigit
      if digits = [] then [] else c :: (sign ++ digits)
    else []

/-- The digits and the decimal point at the beginning of a text. -/
def mantissaAt (t : Text) : Text :=
  let whole := t.takeWhile Text.isDigit
  match t.dropWhile Text.isDigit with
  | '.' :: rest => whole ++ '.' :: rest.takeWhile Text.isDigit
  | _ => whole

/-- The longest numeral at the beginning of a text. -/
def numeralAt? (t : Text) : Option Text :=
  let sign := signAt t
  let mantissa := mantissaAt (t.drop sign.length)
  if mantissa = [] ∨ mantissa = ['.'] then none
  else some (sign ++ mantissa ++ exponentAt (t.drop (sign.length + mantissa.length)))

/-- The number that a text begins with, after white space: an infinity if `Infinity` follows the
sign, else the longest numeral, else NaN. -/
def ofLeading (t : Text) : Double :=
  let t := Text.trimStart t
  let (negative, rest) := splitSign t
  if Text.startsWith "Infinity".toList rest then infinite negative
  else
    match numeralAt? t with
    | some numeral => (ofText? numeral).getD nan
    | none => nan

end Templating.Double
