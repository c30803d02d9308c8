import Templating.Text

/-!
# Binary64 numbers

A finite number is a sign and a *code*: the lower 63 bits of its encoding, which count the
magnitudes upwards from zero. All arithmetic is exact arithmetic on natural numbers, in *quanta* of
2^-1074, of which every finite magnitude is a whole multiple; `ofRatio` is the only place where
anything is rounded.

* `Double.quanta` is the magnitude of a code;
* `Double.ofRatio` is the number nearest to a quotient, of two nearest the one with an even
  significand;
* `Double.key?` orders the numbers; the two zeros share a key and NaN has none.
-/

namespace Templating

/-- How many codes there are: the first one that is no number is that of infinity. -/
def Double.codeLimit : Nat := 2047 * Nat.pow 2 52

/-- A binary64 number. Codes carry no redundancy, so equal constructors mean equal bits; the NaNs
are not told apart. -/
inductive Double where
  | nan
  | infinite (negative : Bool)
  | finite (negative : Bool) (code : Fin Double.codeLimit)
  deriving DecidableEq

namespace Double

/-! ## Magnitudes -/

/-- The power of two by which the significand of a code is scaled. -/
def scale (code : Nat) : Nat := code / Nat.pow 2 52 - 1

/-- The significand of a code, below 2^53, and at least 2^52 where the scale is not zero. -/
def significand (code : Nat) : Nat := code - scale code * Nat.pow 2 52

/-- The magnitude of a code in quanta of 2^-1074. -/
def quanta (code : Nat) : Nat := significand code * Nat.pow 2 (scale code)

/-- The quanta in the number one. -/
def quantaPerOne : Nat := Nat.pow 2 1074

/-! ## Rounding -/

/-- The natural number nearest to `n / d`; of two nearest, the even one. -/
def roundHalfEven (n d : Nat) : Nat :=
  let quotient := n / d
  let double := 2 * (n % d)
  if double < d then quotient
  else if d < double then quotient + 1
  else quotient + quotient % 2

/-- The code whose magnitude is nearest to `n / d` quanta. A significand that rounds up to 2^53
carries into the next scale by itself. The result is not below `codeLimit` when the quotient is
too large for a finite number. -/
def nearestCode (n d : Nat) : Nat :=
  let scale := Nat.log2 (n / d) - 52
  scale * Nat.pow 2 52 + roundHalfEven n (d * Nat.pow 2 scale)

/-- The number with the given sign nearest to `n / d`, infinite beyond the largest finite one. -/
def ofRatio (negative : Bool) (n d : Nat) : Double :=
  let code := nearestCode (n * quantaPerOne) d
  if h : code < codeLimit then .finite negative ⟨code, h⟩ else .infinite negative

/-- The number nearest to an integer; zero is positive. -/
def ofInt (i : Int) : Double := ofRatio (i < 0) i.natAbs 1

/-- Positive zero. -/
def zero : Double := .finite false ⟨0, by decide⟩

/-! ## Order -/

/-- A key that orders the numbers; NaN has none. -/
def key? : Double → Option Int
  | nan => none
  | infinite negative => some (if negative then -codeLimit else codeLimit)
  | finite negative code => some (if negative then -code.val else code.val)

/-- Numeric equality: the two zeros are equal, NaN equals nothing. -/
def equals (x y : Double) : Bool :=
  match x.key?, y.key? with
  | some a, some b => a == b
  | _, _ => false

/-- Numeric order; NaN is not comparable. -/
def less (x y : Double) : Bool :=
  match x.key?, y.key? with
  | some a, some b => a < b
  | _, _ => false

instance : BEq Double := ⟨equals⟩

/-- Whether a number is zero of either sign. -/
def isZero (x : Double) : Bool := x.key? == some 0

/-- Whether a number is NaN. -/
def isNan (x : Double) : Bool := x.key?.isNone

/-- Whether a number is finite. -/
def isFinite : Double → Bool
  | finite .. => true
  | _ => false

/-- The magnitude with a positive sign. -/
def abs : Double → Double
  | nan => nan
  | infinite _ => infinite false
  | finite _ code => finite false code

/-- The smaller number; NaN if either is NaN. Of the two zeros the second is taken. -/
def least (x y : Double) : Double :=
  match x, y with
  | nan, _ => nan
  | _, nan => nan
  | x, y => if x.less y then x else y

/-- The larger number; NaN if either is NaN. Of the two zeros the second is taken. -/
def greatest (x y : Double) : Double :=
  match x, y with
  | nan, _ => nan
  | _, nan => nan
  | x, y => if y.less x then x else y

/-! ## Integers -/

/-- Whether a magnitude in quanta is a whole number. -/
def isWhole (quanta : Nat) : Bool := quanta % quantaPerOne == 0

/-- The largest integer that is not above a number. An integer is kept as it is, its sign
included. -/
def floor : Double → Double
  | finite negative code =>
    let q := quanta code
    if isWhole q then finite negative code
    else if negative then ofInt (-(q / quantaPerOne : Nat) - 1)
    else ofInt (q / quantaPerOne : Nat)
  | x => x

/-- The smallest integer that is not below a number. The zero above a negative number is
negative. -/
def ceil : Double → Double
  | finite negative code =>
    let q := quanta code
    if isWhole q then finite negative code
    else if negative then ofRatio true (q / quantaPerOne) 1
    else ofInt ((q / quantaPerOne : Nat) + 1)
  | x => x

/-- The nearest integer, a half going up. An integer is kept as it is; the zero that another
number rounds to is positive. -/
def roundHalfUp : Double → Double
  | finite negative code =>
    let q := quanta code
    if isWhole q then finite negative code
    else
      let twice : Int := if negative then -(2 * q : Nat) else (2 * q : Nat)
      ofInt ((twice + quantaPerOne) / (2 * quantaPerOne : Nat))
  | x => x

/-- The integer that a number is, if it is one. -/
def toInt? : Double → Option Int
  | finite negative code =>
    let q := quanta code
    if isWhole q then
      some (if negative then -(q / quantaPerOne : Nat) else (q / quantaPerOne : Nat))
    else none
  | _ => none

/-! ## Bits -/

/-- The encoding of a number as 64 bits; every NaN is written as the quiet one. -/
def toBits : Double → Nat
  | nan => codeLimit + Nat.pow 2 51
  | infinite negative => negative.toNat * Nat.pow 2 63 + codeLimit
  | finite negative code => negative.toNat * Nat.pow 2 63 + code

/-- The number that 64 bits encode. -/
def ofBits (bits : Nat) : Double :=
  let negative := Nat.pow 2 63 ≤ bits
  let code := bits % Nat.pow 2 63
  if h : code < codeLimit then .finite negative ⟨code, h⟩
  else if code = codeLimit then .infinite negative
  else .nan

end Double

end Templating
