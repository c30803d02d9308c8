import Mathlib.Algebra.Order.Group.Int
import Mathlib.Tactic.Common
import Templating.Proofs.Vacancy

/-!
# Integers as binary64 numbers

An integer becomes the binary64 number nearest to it. Up to 53 significant bits nothing is lost;
beyond them the number is another integer, the nearest that has no more bits than that.

* `Double.Nearest` — what "nearest" means, and `Double.Nearest.unique` that it means one integer;
* `Double.rounded` — the magnitude with 53 bits, and `Double.nearest_roundedInt` that it is nearest;
* `Double.quanta_nearestCode` — it is the magnitude that an integer gets;
* `Double.nearestCode_mono` — of two magnitudes the smaller one does not become the larger number.

Magnitudes are natural numbers, so the distance of two is `|x - y|` in the integers.
-/

namespace Templating.Double

-- ---------------------------------------------------------------------------
-- Nearest integers
-- ---------------------------------------------------------------------------

/-- A magnitude has at most 53 significant bits. -/
def Fits (n : Nat) : Prop := ∃ m k, m < Nat.pow 2 53 ∧ n = m * Nat.pow 2 k

/-- Of the integers with at most 53 significant bits, `j` is nearest to `i`; of two nearest, it is
the one that a higher power of two divides, which makes its significand even. -/
structure Nearest (i j : Int) : Prop where
  fits : Fits j.natAbs
  closest : ∀ j' : Int, Fits j'.natAbs → (i - j).natAbs ≤ (i - j').natAbs
  even : ∀ j' : Int, Fits j'.natAbs → (i - j').natAbs = (i - j).natAbs → j' ≠ j →
    ∃ k, Nat.pow 2 k ∣ j.natAbs ∧ ¬ Nat.pow 2 k ∣ j'.natAbs

theorem Nearest.unique {i j j' : Int} (h : Nearest i j) (h' : Nearest i j') : j = j' := by
  by_contra hne
  have hdist : (i - j').natAbs = (i - j).natAbs :=
    Nat.le_antisymm (h'.closest j h.fits) (h.closest j' h'.fits)
  -- each would be divided by a power of two that is too high for the other
  obtain ⟨k, hk, hnot⟩ := h.even j' h'.fits hdist (Ne.symm hne)
  obtain ⟨k', hk', hnot'⟩ := h'.even j h.fits hdist.symm hne
  rcases Nat.le_total k k' with hle | hle
  · exact hnot (Nat.dvd_trans (Nat.pow_dvd_pow 2 hle) hk')
  · exact hnot' (Nat.dvd_trans (Nat.pow_dvd_pow 2 hle) hk)

theorem Nearest.eq_iff {i j : Int} (h : Nearest i j) : j = i ↔ Fits i.natAbs := by
  constructor
  · rintro rfl
    exact h.fits
  · intro hfits
    have hclosest := h.closest i hfits
    omega

/-- Up to 2^53 every magnitude fits. -/
theorem fits_of_le {n : Nat} (h : n ≤ Nat.pow 2 53) : Fits n := by
  rcases Nat.lt_or_eq_of_le h with hlt | rfl
  · exact ⟨n, 0, hlt, (Nat.mul_one n).symm⟩
  · exact ⟨1, 53, by decide, by decide⟩

-- ---------------------------------------------------------------------------
-- Rounding to a multiple
-- ---------------------------------------------------------------------------

section RoundHalfEven

variable {n d : Nat}

theorem roundHalfEven_cases (n d : Nat) :
    (roundHalfEven n d = n / d ∧ 2 * (n % d) ≤ d) ∨
      (roundHalfEven n d = n / d + 1 ∧ d ≤ 2 * (n % d)) := by
  rw [roundHalfEven]
  split
  · exact .inl ⟨rfl, by omega⟩
  · split
    · exact .inr ⟨rfl, by omega⟩
    · rcases Nat.mod_two_eq_zero_or_one (n / d) with hparity | hparity
      · exact .inl ⟨by rw [hparity, Nat.add_zero], by omega⟩
      · exact .inr ⟨by rw [hparity], by omega⟩

theorem roundHalfEven_even (h : 2 * (n % d) = d) : roundHalfEven n d % 2 = 0 := by
  rw [roundHalfEven, if_neg (by omega), if_neg (by omega)]
  omega

/-- Multiples of `d` stand at least `d` apart. -/
theorem mul_cases (d q c : Nat) : c * d + d ≤ q * d ∨ c = q ∨ q * d + d ≤ c * d := by
  rcases Nat.lt_trichotomy c q with hlt | heq | hlt
  · have hmul := Nat.mul_le_mul_right d (Nat.succ_le_of_lt hlt)
    rw [Nat.succ_mul] at hmul
    exact .inl hmul
  · exact .inr (.inl heq)
  · have hmul := Nat.mul_le_mul_right d (Nat.succ_le_of_lt hlt)
    rw [Nat.succ_mul] at hmul
    exact .inr (.inr hmul)

/-- No multiple of `d` is nearer. -/
theorem roundHalfEven_nearest (n : Nat) (hd : 0 < d) (c : Nat) :
    ((n : Int) - (roundHalfEven n d * d : Nat)).natAbs ≤ ((n : Int) - (c * d : Nat)).natAbs := by
  have hsplit := Nat.div_add_mod' n d
  have hmod := Nat.mod_lt n hd
  rcases roundHalfEven_cases n d with ⟨heq, hhalf⟩ | ⟨heq, hhalf⟩
  · rw [heq]
    rcases mul_cases d (n / d) c with hbelow | rfl | habove <;> omega
  · rw [heq, Nat.succ_mul]
    rcases mul_cases d (n / d) c with hbelow | rfl | habove <;> omega

/-- Of two nearest multiples it is an even one, and the other one is odd. -/
theorem roundHalfEven_tie {c : Nat} (hd : 0 < d) (hne : c ≠ roundHalfEven n d)
    (htie : ((n : Int) - (c * d : Nat)).natAbs =
      ((n : Int) - (roundHalfEven n d * d : Nat)).natAbs) :
    roundHalfEven n d % 2 = 0 ∧ c % 2 = 1 := by
  have hsplit := Nat.div_add_mod' n d
  have hmod := Nat.mod_lt n hd
  have hsucc : (n / d + 1) * d = n / d * d + d := Nat.succ_mul ..
  rcases roundHalfEven_cases n d with ⟨heq, hhalf⟩ | ⟨heq, hhalf⟩
  · rw [heq] at htie hne
    have hfar : c * d = (n / d + 1) * d ∧ 2 * (n % d) = d := by
      rcases mul_cases d (n / d) c with hbelow | hsame | habove
      · omega
      · exact absurd hsame hne
      · omega
    have hc : c = n / d + 1 := Nat.eq_of_mul_eq_mul_right hd hfar.1
    have heven := roundHalfEven_even hfar.2
    omega
  · rw [heq] at htie hne
    have hfar : c * d = n / d * d ∧ 2 * (n % d) = d := by
      rcases mul_cases d (n / d + 1) c with hbelow | hsame | habove
      · omega
      · exact absurd hsame hne
      · omega
    have hc : c = n / d := Nat.eq_of_mul_eq_mul_right hd hfar.1
    have heven := roundHalfEven_even hfar.2
    omega

theorem roundHalfEven_scale (n d : Nat) {e : Nat} (he : 0 < e) :
    roundHalfEven (n * e) (d * e) = roundHalfEven n d := by
  have hdouble : 2 * (n % d * e) = 2 * (n % d) * e := (Nat.mul_assoc ..).symm
  simp only [roundHalfEven, Nat.mul_div_mul_right _ _ he, Nat.mul_mod_mul_right, hdouble,
    Nat.mul_lt_mul_right he]

theorem roundHalfEven_mul (c : Nat) (hd : 0 < d) : roundHalfEven (c * d) d = c := by
  rw [roundHalfEven, Nat.mul_div_cancel c hd, Nat.mul_mod_left, if_pos (by omega)]

theorem roundHalfEven_mono {m : Nat} (hle : m ≤ n) (d : Nat) :
    roundHalfEven m d ≤ roundHalfEven n d := by
  have hdiv : m / d ≤ n / d := Nat.div_le_div_right hle
  rcases Nat.lt_or_eq_of_le hdiv with hlt | hsame
  · rcases roundHalfEven_cases m d with ⟨hm, -⟩ | ⟨hm, -⟩ <;>
      rcases roundHalfEven_cases n d with ⟨hn, -⟩ | ⟨hn, -⟩ <;> omega
  · have hm := Nat.div_add_mod' m d
    have hn := Nat.div_add_mod' n d
    have hmod : m % d ≤ n % d := by
      rw [hsame] at hm
      omega
    rw [roundHalfEven, roundHalfEven, hsame]
    split_ifs <;> omega

/-- Between two multiples of `d` the quotient stays between their factors. -/
theorem le_roundHalfEven {a : Nat} (hd : 0 < d) (h : a * d ≤ n) : a ≤ roundHalfEven n d := by
  have hmono := roundHalfEven_mono h d
  rwa [roundHalfEven_mul a hd] at hmono

theorem roundHalfEven_le {b : Nat} (hd : 0 < d) (h : n ≤ b * d) : roundHalfEven n d ≤ b := by
  have hmono := roundHalfEven_mono h d
  rwa [roundHalfEven_mul b hd] at hmono

end RoundHalfEven

-- ---------------------------------------------------------------------------
-- Magnitudes of 53 bits
-- ---------------------------------------------------------------------------

/-- The unit in which a magnitude is counted: a power of two that leaves it 53 bits. -/
def unit (n : Nat) : Nat := Nat.pow 2 (Nat.log2 n - 52)

/-- The magnitude nearest to `n` that has no more than 53 bits. -/
def rounded (n : Nat) : Nat := roundHalfEven n (unit n) * unit n

theorem unit_pos (n : Nat) : 0 < unit n := Nat.pow_pos (by decide)

theorem log2_bounds {n : Nat} (h : 0 < n) :
    Nat.pow 2 (Nat.log2 n) ≤ n ∧ n < Nat.pow 2 (Nat.log2 n + 1) :=
  (Nat.log2_eq_iff (Nat.ne_of_gt h)).mp rfl

/-- Below 2^53 the unit is one. -/
theorem rounded_of_lt {n : Nat} (h : n < Nat.pow 2 53) : rounded n = n := by
  have hunit : unit n = 1 := by
    rcases n.eq_zero_or_pos with rfl | hpos
    · rfl
    · have hlog : Nat.log2 n < 53 := (Nat.log2_lt (Nat.ne_of_gt hpos)).mpr h
      rw [unit, Nat.sub_eq_zero_of_le (by omega)]
  have hone := roundHalfEven_mul n Nat.one_pos
  rw [rounded, hunit, Nat.mul_one]
  rwa [Nat.mul_one] at hone

theorem lt_units (n : Nat) : n < Nat.pow 2 53 * unit n := by
  rcases n.eq_zero_or_pos with rfl | hpos
  · exact Nat.mul_pos (by decide) (unit_pos 0)
  · have hle : Nat.pow 2 (Nat.log2 n + 1) ≤ Nat.pow 2 53 * unit n := by
      rw [unit, Nat.pow_eq, Nat.pow_eq, Nat.pow_eq, ← Nat.pow_add]
      exact Nat.pow_le_pow_right (by decide) (by omega)
    exact Nat.lt_of_lt_of_le (log2_bounds hpos).2 hle

theorem units_le {n : Nat} (h : Nat.pow 2 52 ≤ n) : Nat.pow 2 52 * unit n ≤ n := by
  have hpos : 0 < n := Nat.lt_of_lt_of_le (by decide) h
  have hlog := le_log2_of_pow_le h
  have hsplit : Nat.pow 2 52 * unit n = Nat.pow 2 (Nat.log2 n) := by
    rw [unit, Nat.pow_eq, Nat.pow_eq, Nat.pow_eq, ← Nat.pow_add, Nat.add_sub_cancel' hlog]
  rw [hsplit]
  exact (log2_bounds hpos).1

theorem fits_rounded (n : Nat) : Fits (rounded n) := by
  rcases Nat.lt_or_ge n (Nat.pow 2 53) with hlt | hge
  · rw [rounded_of_lt hlt]
    exact fits_of_le (Nat.le_of_lt hlt)
  · have hle : roundHalfEven n (unit n) ≤ Nat.pow 2 53 :=
      roundHalfEven_le (unit_pos n) (Nat.le_of_lt (lt_units n))
    rcases Nat.lt_or_eq_of_le hle with hlt | heq
    · exact ⟨_, _, hlt, rfl⟩
    · -- the significand carries into the next scale
      refine ⟨1, Nat.log2 n - 52 + 53, by decide, ?_⟩
      rw [rounded, heq, unit, Nat.pow_eq, Nat.pow_eq, Nat.pow_eq, Nat.one_mul, Nat.pow_add,
        Nat.mul_comm]

/-- From 2^52 units upwards a magnitude that fits is counted in these units. -/
theorem Fits.eq_mul_unit {n y : Nat} (h : Fits y) (hge : Nat.pow 2 52 * unit n ≤ y) :
    ∃ c, y = c * unit n := by
  obtain ⟨m, k, hm, rfl⟩ := h
  rw [unit] at hge ⊢
  generalize Nat.log2 n - 52 = e at hge ⊢
  rcases Nat.lt_or_ge k e with hlt | hle
  · have hless : m * Nat.pow 2 k < Nat.pow 2 53 * Nat.pow 2 k :=
      Nat.mul_lt_mul_of_pos_right hm (Nat.pow_pos (by decide))
    have hmore : Nat.pow 2 53 * Nat.pow 2 k ≤ Nat.pow 2 52 * Nat.pow 2 e := by
      rw [Nat.pow_eq, Nat.pow_eq, Nat.pow_eq, Nat.pow_eq, ← Nat.pow_add, ← Nat.pow_add]
      exact Nat.pow_le_pow_right (by decide) (by omega)
    omega
  · refine ⟨m * Nat.pow 2 (k - e), ?_⟩
    rw [Nat.mul_assoc, Nat.pow_eq, Nat.pow_eq, Nat.pow_eq, ← Nat.pow_add, Nat.sub_add_cancel hle]

/-- What fits is at least as far from `n` as a multiple of the unit; below 2^52 units it is farther
than the magnitude of 53 bits. -/
theorem Fits.cases {y : Nat} (h : Fits y) {n : Nat} (hn : Nat.pow 2 53 ≤ n) :
    ((n : Int) - rounded n).natAbs < ((n : Int) - y).natAbs ∨ ∃ c, y = c * unit n := by
  rcases Nat.lt_or_ge y (Nat.pow 2 52 * unit n) with hlt | hge
  · have hlow := units_le (Nat.le_trans (by decide) hn)
    have hnearest := roundHalfEven_nearest n (unit_pos n) (Nat.pow 2 52)
    left
    rw [rounded]
    omega
  · exact .inr (h.eq_mul_unit hge)

/-- Nothing that fits is nearer. -/
theorem rounded_nearest (n : Nat) {y : Nat} (h : Fits y) :
    ((n : Int) - rounded n).natAbs ≤ ((n : Int) - y).natAbs := by
  rcases Nat.lt_or_ge n (Nat.pow 2 53) with hlt | hge
  · rw [rounded_of_lt hlt]
    omega
  · rcases h.cases hge with hfarther | ⟨c, rfl⟩
    · exact Nat.le_of_lt hfarther
    · exact roundHalfEven_nearest n (unit_pos n) c

/-- Of two nearest that fit it has the even significand. -/
theorem rounded_tie {n y : Nat} (h : Fits y) (hne : y ≠ rounded n)
    (htie : ((n : Int) - y).natAbs = ((n : Int) - rounded n).natAbs) :
    ∃ k, Nat.pow 2 k ∣ rounded n ∧ ¬ Nat.pow 2 k ∣ y := by
  rcases Nat.lt_or_ge n (Nat.pow 2 53) with hlt | hge
  · rw [rounded_of_lt hlt] at hne htie
    omega
  · rcases h.cases hge with hfarther | ⟨c, rfl⟩
    · omega
    · have hc : c ≠ roundHalfEven n (unit n) := fun heq => hne (heq ▸ rfl)
      obtain ⟨heven, hodd⟩ := roundHalfEven_tie (unit_pos n) hc htie
      have hdouble : Nat.pow 2 (Nat.log2 n - 52 + 1) = 2 * unit n :=
        (Nat.pow_succ ..).trans (Nat.mul_comm ..)
      refine ⟨Nat.log2 n - 52 + 1, ?_, ?_⟩
      · rw [hdouble]
        exact Nat.mul_dvd_mul_right (Nat.dvd_of_mod_eq_zero heven) _
      · rw [hdouble, Nat.mul_dvd_mul_iff_right (unit_pos n)]
        omega

/-- The integer nearest to `i` that has no more than 53 bits. -/
def roundedInt (i : Int) : Int := if i < 0 then -(rounded i.natAbs : Nat) else rounded i.natAbs

theorem nearest_roundedInt (i : Int) : Nearest i (roundedInt i) := by
  have habs : (roundedInt i).natAbs = rounded i.natAbs := by
    rw [roundedInt]
    split <;> omega
  have hdist : (i - roundedInt i).natAbs = ((i.natAbs : Int) - rounded i.natAbs).natAbs := by
    rw [roundedInt]
    split <;> omega
  constructor
  · rw [habs]
    exact fits_rounded i.natAbs
  · intro j' hj'
    have hnearest := rounded_nearest i.natAbs hj'
    omega
  · intro j' hj' htie hne
    have hnearest := rounded_nearest i.natAbs hj'
    have hother : j'.natAbs ≠ rounded i.natAbs := by
      intro hsame
      -- the opposite of the nearest is farther away, except from zero
      have hzero : i.natAbs = 0 → rounded i.natAbs = 0 := fun h => by
        rw [h, rounded_of_lt (by decide)]
      omega
    rw [habs]
    exact rounded_tie hj' hother (by omega)

-- ---------------------------------------------------------------------------
-- Codes of integers
-- ---------------------------------------------------------------------------

/-- The magnitude of a code by its scale and its significand. A significand of 2^53 is one of 2^52
in the next scale. -/
theorem quanta_mul_add {e q : Nat} (hlow : Nat.pow 2 52 ≤ q) (hhigh : q ≤ Nat.pow 2 53) :
    quanta (e * Nat.pow 2 52 + q) = q * Nat.pow 2 e := by
  have h52 : Nat.pow 2 52 = 4503599627370496 := rfl
  have h53 : Nat.pow 2 53 = 9007199254740992 := rfl
  rw [h52] at hlow ⊢
  rw [h53] at hhigh
  rw [quanta, significand, scale, h52]
  rcases Nat.lt_or_eq_of_le hhigh with hlt | rfl
  · have hscale : (e * 4503599627370496 + q) / 4503599627370496 - 1 = e := by omega
    rw [hscale, Nat.add_sub_cancel_left]
  · have hscale : (e * 4503599627370496 + 9007199254740992) / 4503599627370496 - 1 = e + 1 := by
      omega
    have hsignificand : e * 4503599627370496 + 9007199254740992 - (e + 1) * 4503599627370496 =
        4503599627370496 := by omega
    rw [hscale, hsignificand, Nat.pow_eq, Nat.pow_eq, Nat.pow_succ']
    omega

theorem log2_mul_pow {n : Nat} (h : 0 < n) (p : Nat) :
    Nat.log2 (n * Nat.pow 2 p) = Nat.log2 n + p := by
  obtain ⟨hlow, hhigh⟩ := log2_bounds h
  have hpos : 0 < Nat.pow 2 p := Nat.pow_pos (by decide)
  refine (Nat.log2_eq_iff (Nat.ne_of_gt (Nat.mul_pos h hpos))).mpr ⟨?_, ?_⟩
  · rw [Nat.pow_add]
    exact Nat.mul_le_mul_right _ hlow
  · rw [Nat.add_right_comm, Nat.pow_add]
    exact Nat.mul_lt_mul_of_pos_right hhigh hpos

/-- A positive integer, in quanta of 2^-p, has the code of a significand from 2^52 to 2^53, and this
is the magnitude of 53 bits. -/
theorem exists_significand {n p : Nat} (hn : 0 < n) (hp : 52 ≤ p) :
    ∃ q, Nat.pow 2 52 ≤ q ∧ q ≤ Nat.pow 2 53 ∧
      nearestCode (n * Nat.pow 2 p) 1 = (Nat.log2 n + p - 52) * Nat.pow 2 52 + q ∧
      q * Nat.pow 2 (Nat.log2 n + p - 52) = rounded n * Nat.pow 2 p := by
  have hpos : 0 < Nat.pow 2 p := Nat.pow_pos (by decide)
  have hlog := log2_mul_pow hn p
  have hquanta : Nat.pow 2 52 ≤ n * Nat.pow 2 p :=
    Nat.le_trans (Nat.pow_le_pow_right (by decide) hp) (Nat.le_mul_of_pos_left _ hn)
  have hunit : unit (n * Nat.pow 2 p) = Nat.pow 2 (Nat.log2 n + p - 52) := by rw [unit, hlog]
  refine ⟨roundHalfEven (n * Nat.pow 2 p) (unit (n * Nat.pow 2 p)), ?_, ?_, ?_, ?_⟩
  · exact le_roundHalfEven (unit_pos _) (units_le hquanta)
  · exact roundHalfEven_le (unit_pos _) (Nat.le_of_lt (lt_units _))
  · rw [nearestCode, Nat.div_one, hlog, Nat.one_mul, hunit]
  · rw [← hunit]
    rcases Nat.lt_or_ge n (Nat.pow 2 53) with hlt | hge
    · -- the unit divides the quanta of one, so nothing is rounded
      have hlog53 : Nat.log2 n < 53 := (Nat.log2_lt (Nat.ne_of_gt hn)).mpr hlt
      have hunits : n * Nat.pow 2 p = n * Nat.pow 2 (52 - Nat.log2 n) * unit (n * Nat.pow 2 p) := by
        rw [hunit, Nat.mul_assoc, Nat.pow_eq, Nat.pow_eq, Nat.pow_eq, ← Nat.pow_add]
        congr 2
        omega
      have hexact := roundHalfEven_mul (n * Nat.pow 2 (52 - Nat.log2 n))
        (unit_pos (n * Nat.pow 2 p))
      rw [← hunits] at hexact
      rw [hexact, ← hunits, rounded_of_lt hlt]
    · have hlog52 : 52 ≤ Nat.log2 n := le_log2_of_pow_le (Nat.le_trans (by decide) hge)
      have hunits : unit (n * Nat.pow 2 p) = unit n * Nat.pow 2 p := by
        rw [hunit, unit, Nat.pow_eq, Nat.pow_eq, Nat.pow_eq, ← Nat.pow_add]
        congr 1
        omega
      rw [hunits, roundHalfEven_scale _ _ hpos, rounded, Nat.mul_assoc]

/-- The exponent as a variable, so that nothing evaluates the power. -/
theorem quantaPerOne_eq : ∃ p, 52 ≤ p ∧ p ≤ 1074 ∧ quantaPerOne = Nat.pow 2 p := by
  unfold quantaPerOne
  exact ⟨1074, by decide, by decide, rfl⟩

theorem quantaPerOne_pos : 0 < quantaPerOne := by
  obtain ⟨p, -, -, hone⟩ := quantaPerOne_eq
  rw [hone]
  exact Nat.pow_pos (by decide)

/-- **The magnitude of an integer** is that of 53 bits. -/
theorem quanta_nearestCode (n : Nat) :
    quanta (nearestCode (n * quantaPerOne) 1) = rounded n * quantaPerOne := by
  rcases n.eq_zero_or_pos with rfl | hpos
  · have hzero : quanta (nearestCode 0 1) = 0 := rfl
    rw [rounded_of_lt (by decide), Nat.zero_mul, hzero]
  · obtain ⟨p, hp, -, hone⟩ := quantaPerOne_eq
    obtain ⟨q, hlow, hhigh, hcode, hq⟩ := exists_significand hpos hp
    rw [hone, hcode, quanta_mul_add hlow hhigh, hq]

/-- Below 2^64 an integer is far from infinity. -/
theorem nearestCode_lt {n : Nat} (h : n < Nat.pow 2 64) :
    nearestCode (n * quantaPerOne) 1 < codeLimit := by
  rcases n.eq_zero_or_pos with rfl | hpos
  · rw [Nat.zero_mul]
    decide
  · obtain ⟨p, hp, hle, hone⟩ := quantaPerOne_eq
    obtain ⟨q, -, hhigh, hcode, -⟩ := exists_significand hpos hp
    have hlog : Nat.log2 n < 64 := (Nat.log2_lt (Nat.ne_of_gt hpos)).mpr h
    have hscale : (Nat.log2 n + p - 52) * Nat.pow 2 52 ≤ 1086 * Nat.pow 2 52 :=
      Nat.mul_le_mul_right _ (by omega)
    rw [hone, hcode]
    exact Nat.lt_of_le_of_lt (Nat.add_le_add hscale hhigh) (by decide)

/-- A larger magnitude does not get a smaller code. -/
theorem nearestCode_mono {m n : Nat} (h : m ≤ n) : nearestCode m 1 ≤ nearestCode n 1 := by
  have hcode (k : Nat) : nearestCode k 1 =
      (Nat.log2 k - 52) * Nat.pow 2 52 + roundHalfEven k (unit k) := by
    rw [nearestCode, Nat.div_one, Nat.one_mul, unit]
  have hlog : Nat.log2 m ≤ Nat.log2 n := by
    rcases m.eq_zero_or_pos with rfl | hpos
    · exact Nat.zero_le _
    · exact le_log2_of_pow_le (Nat.le_trans (log2_bounds hpos).1 h)
  rw [hcode, hcode]
  rcases Nat.lt_or_eq_of_le (Nat.sub_le_sub_right hlog 52) with hlt | hsame
  · -- the significand of the smaller one ends where that of the next scale begins
    have hsmall : roundHalfEven m (unit m) ≤ Nat.pow 2 53 :=
      roundHalfEven_le (unit_pos m) (Nat.le_of_lt (lt_units m))
    have hn : 0 < n := by
      rcases n.eq_zero_or_pos with rfl | hpos
      · exact absurd hlt (Nat.not_lt_zero _)
      · exact hpos
    have hpow : Nat.pow 2 52 ≤ n :=
      Nat.le_trans (Nat.pow_le_pow_right (by decide) (by omega)) (log2_bounds hn).1
    have hlarge : Nat.pow 2 52 ≤ roundHalfEven n (unit n) :=
      le_roundHalfEven (unit_pos n) (units_le hpow)
    have hscale := Nat.mul_le_mul_right (Nat.pow 2 52) (Nat.succ_le_of_lt hlt)
    rw [Nat.succ_mul] at hscale
    have hdouble : Nat.pow 2 53 = Nat.pow 2 52 + Nat.pow 2 52 := by decide
    omega
  · rw [unit, unit, hsame]
    exact Nat.add_le_add_left (roundHalfEven_mono h _) _

end Templating.Double
