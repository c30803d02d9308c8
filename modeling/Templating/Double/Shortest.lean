import Templating.Double

/-!
# The fewest digits that read back

The decimal digits of a number are chosen by exact comparison: of all decimals that round to the
number, those with the fewest digits, and of those the nearest. On the grid of decimals with `n`
significant digits only the two neighbours of the number can be it, so `n = 1, 2, …` is tried until
one of them lies in the interval of reals that round to the number; seventeen digits always do.

A `Layout` says how the digits are set out.
-/

namespace Templating.Double

/-! ## Digits -/

/-- Which of two equally near decimals is taken: the even one or the larger one. -/
inductive Tie where
  | toEven
  | up

/-- The reals that round to a magnitude, in quarters of a quantum. The ends belong to it when the
significand is even. -/
structure Interval where
  lower : Nat
  centre : Nat
  upper : Nat
  closed : Bool

/-- The interval of a code. The gap below a power of two is half as wide as the one above. -/
def interval (code : Nat) : Interval :=
  let centre := 4 * quanta code
  let gap := Nat.pow 2 (scale code)
  { lower := centre - (if significand code = Nat.pow 2 52 ∧ 0 < scale code then gap else 2 * gap)
    centre := centre
    upper := centre + 2 * gap
    closed := significand code % 2 == 0 }

/-- Quarters of a quantum in the number one. -/
def quartersPerOne : Nat := 4 * quantaPerOne

/-- The exponent of the first significant digit of a magnitude given in quarters. -/
def leadingExponent (quarters : Nat) : Int :=
  if quartersPerOne ≤ quarters then
    ((Text.ofNat (quarters / quartersPerOne)).length : Int) - 1
  else
    -((Text.ofNat (quartersPerOne / quarters)).length : Int)

/-- The neighbour of the centre on the grid of multiples of `10^exponent` that lies in the
interval; of two, the nearer one. -/
def neighbour? (tie : Tie) (i : Interval) (exponent : Int) : Option Nat :=
  -- multiply by `up` to count in units of which `step` make a grid step
  let up := match exponent with
    | .ofNat _ => 1
    | .negSucc e => Nat.pow 10 (e + 1)
  let step := match exponent with
    | .ofNat e => quartersPerOne * Nat.pow 10 e
    | .negSucc _ => quartersPerOne
  let centre := i.centre * up
  let inside (c : Nat) : Bool :=
    let x := c * step
    (i.lower * up < x && x < i.upper * up)
      || (i.closed && (x == i.lower * up || x == i.upper * up))
  let below := centre / step
  let above := below + 1
  let twice := 2 * (centre % step)
  let belowFirst := match tie with
    | .toEven => twice < step || (twice == step && below % 2 == 0)
    | .up => twice < step
  let (first, second) := if belowFirst then (below, above) else (above, below)
  if inside first then some first
  else if inside second then some second
  else none

/-- Decimal digits without a trailing zero and the exponent of the first of them. -/
structure Digits where
  digits : Text
  exponent : Int

/-- The digits of `n · 10^exponent` without the zeros at the end. -/
def Digits.ofNat (n : Nat) (exponent : Int) : Digits :=
  let all := Text.ofNat n
  { digits := (all.reverse.dropWhile (· == '0')).reverse
    exponent := exponent + all.length - 1 }

/-- The fewest digits that read back as the magnitude of a code that is not zero. -/
def shortest (tie : Tie) (code : Nat) : Digits :=
  let i := interval code
  let leading := leadingExponent i.centre
  let found := (List.range 17).findSome? fun (more : Nat) =>
    (neighbour? tie i (leading - more)).map fun n => Digits.ofNat n (leading - more)
  found.getD ⟨['0'], 0⟩

/-! ## Layouts -/

/-- How the digits of a number are set out. -/
structure Layout where
  /-- Whether a number whose first digit has this exponent is written with all its places. -/
  isPositional : Int → Bool
  /-- What follows a positional number that has no fraction. -/
  wholeEnd : Text
  /-- Which of two equally near decimals is written. -/
  tie : Tie

/-- The digits with all their places and a decimal point where one is due. -/
def Layout.positional (layout : Layout) (d : Digits) : Text :=
  match d.exponent with
  | .ofNat e =>
    if d.digits.length ≤ e + 1 then
      d.digits ++ List.replicate (e + 1 - d.digits.length) '0' ++ layout.wholeEnd
    else
      d.digits.take (e + 1) ++ '.' :: d.digits.drop (e + 1)
  | .negSucc e => '0' :: '.' :: (List.replicate e '0' ++ d.digits)

/-- One digit before the point, and the exponent with its sign. -/
def scientific (d : Digits) : Text :=
  let mantissa := match d.digits with
    | first :: second :: rest => first :: '.' :: second :: rest
    | digits => digits
  mantissa ++ 'e' :: (if d.exponent < 0 then '-' else '+') :: Text.ofNat d.exponent.natAbs

/-- The text of a finite number. -/
def Layout.text (layout : Layout) (negative : Bool) (code : Nat) : Text :=
  let unsigned :=
    if code = 0 then '0' :: layout.wholeEnd
    else
      let d := shortest layout.tie code
      if layout.isPositional d.exponent then layout.positional d else scientific d
  if negative then '-' :: unsigned else unsigned

/-- All places, no exponent, no fraction that is zero. -/
def Layout.plain : Layout := ⟨fun _ => true, [], .up⟩

/-- All places from 0.00001 to below 10^16, always with a fraction; an exponent elsewhere. -/
def Layout.json : Layout := ⟨fun k => -5 ≤ k && k < 16, ".0".toList, .toEven⟩

/-- The text of a number in rendered output. Integers below 10^21 have all their digits and no
fraction, a negative zero has no sign. -/
def format (x : Double) : Text :=
  match x with
  | nan => "NaN".toList
  | infinite negative => (if negative then "-Infinity" else "Infinity").toList
  | finite negative code =>
    if code.val = 0 then ['0']
    else
      match x.toInt? with
      | some i => if i.natAbs < Nat.pow 10 21 then Text.ofInt i else Layout.plain.text negative code
      | none => Layout.plain.text negative code

end Templating.Double
