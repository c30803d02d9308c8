import Mathlib.Tactic.Common
import Templating.Value.Coercion

/-!
# Values that stand for nothing

A conditional block asks whether a value is falsy, and takes an absent one for falsy. For an integer
this is decided by the binary64 number nearest to it, which is zero for zero only.

* `Double.isZero_ofInt` — no integer but zero becomes zero;
* `Value.Vacant` — the values that count as nothing;
* `Value.isFalsyOrAbsent_iff` — these are the falsy ones.
-/

namespace Templating

-- ---------------------------------------------------------------------------
-- Numbers
-- ---------------------------------------------------------------------------

namespace Double

theorem le_log2_of_pow_le {k n : Nat} (h : Nat.pow 2 k ≤ n) : k ≤ Nat.log2 n := by
  have hpos : 0 < Nat.pow 2 k := Nat.pow_pos (by decide)
  exact (Nat.le_log2 (by omega)).mpr h

/-- From the magnitude of one upwards no magnitude is so small that its code is that of zero. -/
theorem nearestCode_pos {n : Nat} (h : quantaPerOne ≤ n) : 0 < nearestCode n 1 := by
  have hlog : 1074 ≤ Nat.log2 n := le_log2_of_pow_le h
  have hscale : 0 < (Nat.log2 n - 52) * Nat.pow 2 52 :=
    Nat.mul_pos (by omega) (Nat.pow_pos (by decide))
  rw [nearestCode, Nat.div_one]
  exact Nat.add_pos_left hscale _

theorem isZero_iff_equals (x : Double) : x.isZero = true ↔ x.equals zero = true := by
  have hzero : zero.key? = some 0 := rfl
  rw [isZero, equals, hzero]
  cases x.key? with
  | none => decide
  | some key => simp

theorem isZero_ofInt (i : Int) : (ofInt i).isZero = true ↔ i = 0 := by
  constructor
  · intro hzero
    by_contra hne
    have hpos : 1 ≤ i.natAbs := Int.natAbs_pos.mpr hne
    have hcode : 0 < nearestCode (i.natAbs * quantaPerOne) 1 :=
      nearestCode_pos (Nat.le_mul_of_pos_left _ hpos)
    rw [ofInt, ofRatio] at hzero
    split at hzero
    · -- a code that is not zero stands for a number that is not zero
      simp only [isZero, key?, beq_iff_eq, Option.some.injEq] at hzero
      split at hzero <;> omega
    · cases hnegative : decide (i < 0) with
      | false =>
        rw [hnegative] at hzero
        exact absurd hzero (by decide)
      | true =>
        rw [hnegative] at hzero
        exact absurd hzero (by decide)
  · rintro rfl
    rw [ofInt, ofRatio, Int.natAbs_zero, Nat.zero_mul]
    rfl

end Double

/-- Whether a number equals zero. -/
def Number.IsZero : Number → Prop
  | int n => n = 0
  | double x => x.equals .zero = true

theorem Number.isZero_toDouble : ∀ n : Number, n.toDouble.isZero = true ↔ n.IsZero
  | int n => Double.isZero_ofInt n
  | double x => x.isZero_iff_equals

-- ---------------------------------------------------------------------------
-- Values
-- ---------------------------------------------------------------------------

namespace Value

/-- What a path leads to counts as nothing: no value, null, false, a zero, or something empty. -/
inductive Vacant : Option Value → Prop
  | absent : Vacant none
  | null : Vacant (some .null)
  | false : Vacant (some (.bool Bool.false))
  | zero {n : Number} : n.IsZero → Vacant (some (.number n))
  | string : Vacant (some (.string []))
  | array : Vacant (some (.array []))
  | object : Vacant (some (.object []))

theorem isFalsyOrAbsent_iff : ∀ value : Option Value, isFalsyOrAbsent value = true ↔ Vacant value
  | none => ⟨fun _ => .absent, fun _ => rfl⟩
  | some .null => ⟨fun _ => .null, fun _ => rfl⟩
  | some (.bool Bool.false) => ⟨fun _ => .false, fun _ => rfl⟩
  | some (.bool Bool.true) => ⟨fun h => (by cases h), fun h => (by cases h)⟩
  | some (.number n) => by
    refine n.isZero_toDouble.trans ⟨.zero, fun h => ?_⟩
    cases h with
    | zero hzero => exact hzero
  | some (.string []) => ⟨fun _ => .string, fun _ => rfl⟩
  | some (.string (_ :: _)) => ⟨fun h => (by cases h), fun h => (by cases h)⟩
  | some (.array []) => ⟨fun _ => .array, fun _ => rfl⟩
  | some (.array (_ :: _)) => ⟨fun h => (by cases h), fun h => (by cases h)⟩
  | some (.object []) => ⟨fun _ => .object, fun _ => rfl⟩
  | some (.object (_ :: _)) => ⟨fun h => (by cases h), fun h => (by cases h)⟩

instance (value : Option Value) : Decidable (Vacant value) :=
  decidable_of_iff _ (isFalsyOrAbsent_iff value)

end Value

end Templating
