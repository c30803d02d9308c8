import Templating.Proofs.Double.Rounding
import Templating.Proofs.Effects

/-!
# Number filters on integers

The number filters work on binary64 numbers, so an integer is rounded to 53 bits before anything
else happens to it; after that it stays what it is. It has no fraction that `floor`, `ceil` and
`round` could take away, the smallest of several integers becomes the smallest of their numbers, and
a number of this size is written with all its digits.

* `Double.toInt?_ofInt` — the number of an integer is the nearest integer of 53 bits;
* `Double.least_ofInt`, `Double.greatest_ofInt` — rounding keeps the order;
* `Filter.Gives` — the integer that a filter is to give;
* `Run.evaluateTag_integer` — a tag becomes the digits of the integer nearest to it.
-/

namespace Templating

-- ---------------------------------------------------------------------------
-- The numbers of integers
-- ---------------------------------------------------------------------------

namespace Double

variable {i j : Int}

/-! ## Magnitude -/

theorem ofInt_finite (h : i.natAbs < Nat.pow 2 64) :
    ∃ code : Fin codeLimit, ofInt i = .finite (i < 0) code ∧
      quanta code = rounded i.natAbs * quantaPerOne ∧ (code.val = 0 → i = 0) := by
  have hlimit := nearestCode_lt h
  refine ⟨⟨_, hlimit⟩, dif_pos hlimit, quanta_nearestCode i.natAbs, ?_⟩
  intro hzero
  by_contra hne
  have hquanta : quantaPerOne ≤ i.natAbs * quantaPerOne :=
    Nat.le_mul_of_pos_left _ (Int.natAbs_pos.mpr hne)
  exact absurd hzero (Nat.ne_of_gt (nearestCode_pos hquanta))

theorem isWhole_mul (n : Nat) : isWhole (n * quantaPerOne) = true := by
  rw [isWhole, Nat.mul_mod_left]
  rfl

/-- An integer has no fraction. -/
theorem floor_ofInt (h : i.natAbs < Nat.pow 2 64) : (ofInt i).floor = ofInt i := by
  obtain ⟨code, hcode, hquanta, -⟩ := ofInt_finite h
  rw [hcode, floor, hquanta, if_pos (isWhole_mul _)]

theorem ceil_ofInt (h : i.natAbs < Nat.pow 2 64) : (ofInt i).ceil = ofInt i := by
  obtain ⟨code, hcode, hquanta, -⟩ := ofInt_finite h
  rw [hcode, ceil, hquanta, if_pos (isWhole_mul _)]

theorem roundHalfUp_ofInt (h : i.natAbs < Nat.pow 2 64) : (ofInt i).roundHalfUp = ofInt i := by
  obtain ⟨code, hcode, hquanta, -⟩ := ofInt_finite h
  rw [hcode, roundHalfUp, hquanta, if_pos (isWhole_mul _)]

/-- The sign plays no part in the rounding. -/
theorem abs_ofInt (i : Int) : (ofInt i).abs = ofInt i.natAbs := by
  have hpositive : decide ((i.natAbs : Int) < 0) = false := decide_eq_false (by omega)
  rw [ofInt, ofInt, Int.natAbs_natCast, hpositive, ofRatio, ofRatio]
  split <;> rfl

/-- **The number of an integer** is the nearest integer of 53 bits. -/
theorem toInt?_ofInt (h : i.natAbs < Nat.pow 2 64) : (ofInt i).toInt? = some (roundedInt i) := by
  obtain ⟨code, hcode, hquanta, -⟩ := ofInt_finite h
  rw [hcode, toInt?, hquanta, if_pos (isWhole_mul _), Nat.mul_div_cancel _ quantaPerOne_pos,
    roundedInt]
  simp only [decide_eq_true_eq]

/-- Rounding stays below the powers of two that fit. -/
theorem rounded_le {n : Nat} (h : n < Nat.pow 2 64) : rounded n ≤ Nat.pow 2 64 := by
  have hfits : Fits (Nat.pow 2 64) := ⟨1, 64, by decide, (Nat.one_mul _).symm⟩
  have hnearest := rounded_nearest n hfits
  omega

/-- It is written with all its digits. -/
theorem format_ofInt (h : i.natAbs < Nat.pow 2 64) :
    (ofInt i).format = Text.ofInt (roundedInt i) := by
  have hint := toInt?_ofInt h
  obtain ⟨code, hcode, -, hzero⟩ := ofInt_finite h
  have hsmall : (roundedInt i).natAbs < Nat.pow 10 21 := by
    have hle := rounded_le h
    have hpow : Nat.pow 2 64 < Nat.pow 10 21 := by decide
    rw [roundedInt]
    split <;> omega
  rw [hcode] at hint ⊢
  rw [format]
  by_cases hcode0 : code.val = 0
  · obtain rfl := hzero hcode0
    rw [if_pos hcode0]
    rfl
  · rw [if_neg hcode0, hint]
    exact if_pos hsmall

/-! ## Order -/

/-- The code of a magnitude, or that of infinity. -/
def codeOf (n : Nat) : Nat := min (nearestCode (n * quantaPerOne) 1) codeLimit

/-- The key of the number of an integer. -/
def keyOf (i : Int) : Int := if i < 0 then -(codeOf i.natAbs : Int) else codeOf i.natAbs

theorem key?_ofInt (i : Int) : (ofInt i).key? = some (keyOf i) := by
  rw [ofInt, ofRatio, keyOf, codeOf]
  split
  next hlimit =>
    rw [Nat.min_eq_left (Nat.le_of_lt hlimit)]
    simp only [key?, decide_eq_true_eq]
  next hlimit =>
    rw [Nat.min_eq_right (Nat.le_of_not_lt hlimit)]
    simp only [key?, decide_eq_true_eq]

theorem codeOf_mono {m n : Nat} (h : m ≤ n) : codeOf m ≤ codeOf n := by
  have hmono := nearestCode_mono (Nat.mul_le_mul_right quantaPerOne h)
  rw [codeOf, codeOf]
  omega

theorem codeOf_pos {n : Nat} (h : 0 < n) : 0 < codeOf n := by
  have hcode := nearestCode_pos (Nat.le_mul_of_pos_left quantaPerOne h)
  have hlimit : 0 < codeLimit := by decide
  rw [codeOf]
  omega

theorem keyOf_mono (h : i ≤ j) : keyOf i ≤ keyOf j := by
  rw [keyOf, keyOf]
  split <;> split
  next hi hj =>
    have hcode : codeOf j.natAbs ≤ codeOf i.natAbs := codeOf_mono (by omega)
    omega
  · omega
  · omega
  next hi hj =>
    have hcode : codeOf i.natAbs ≤ codeOf j.natAbs := codeOf_mono (by omega)
    omega

/-- Integers of one key are one number: the sign of a negative one is not lost. -/
theorem ofInt_eq_of_keyOf (h : keyOf i = keyOf j) : ofInt i = ofInt j := by
  have hi : i < 0 → 0 < codeOf i.natAbs := fun h => codeOf_pos (by omega)
  have hj : j < 0 → 0 < codeOf j.natAbs := fun h => codeOf_pos (by omega)
  have hsame : decide (i < 0) = decide (j < 0) ∧ codeOf i.natAbs = codeOf j.natAbs := by
    rw [decide_eq_decide]
    rw [keyOf, keyOf] at h
    split at h <;> split at h <;> omega
  obtain ⟨hsign, hcode⟩ := hsame
  rw [ofInt, ofInt, ofRatio, ofRatio, hsign]
  rw [codeOf, codeOf] at hcode
  split <;> split
  next hi hj =>
    rw [Nat.min_eq_left (Nat.le_of_lt hi), Nat.min_eq_left (Nat.le_of_lt hj)] at hcode
    exact congrArg (Double.finite _) (Fin.ext hcode)
  · omega
  · omega
  · rfl

theorem ofInt_ne_nan (i : Int) : ofInt i ≠ nan := by
  intro hnan
  have hkey := key?_ofInt i
  rw [hnan] at hkey
  cases hkey

theorem less_ofInt (i j : Int) : (ofInt i).less (ofInt j) = decide (keyOf i < keyOf j) := by
  rw [less, key?_ofInt, key?_ofInt]

/-- A larger integer does not become the smaller number. -/
theorem not_less_of_le (h : i ≤ j) : ¬ (ofInt j).less (ofInt i) = true := by
  rw [less_ofInt, decide_eq_true_eq]
  exact Int.not_lt.mpr (keyOf_mono h)

/-- A smaller one becomes the smaller number, or the same. -/
theorem less_or_eq_of_le (h : i ≤ j) :
    (ofInt i).less (ofInt j) = true ∨ ofInt i = ofInt j := by
  rw [less_ofInt, decide_eq_true_eq]
  rcases Int.lt_or_eq_of_le (keyOf_mono h) with hlt | hsame
  · exact .inl hlt
  · exact .inr (ofInt_eq_of_keyOf hsame)

/-- Where neither is NaN, the numbers are compared. -/
theorem least_eq {x y : Double} (hx : x ≠ nan) (hy : y ≠ nan) :
    least x y = if x.less y then x else y := by
  rw [least]
  · exact hx
  · exact hy

theorem greatest_eq {x y : Double} (hx : x ≠ nan) (hy : y ≠ nan) :
    greatest x y = if y.less x then x else y := by
  rw [greatest]
  · exact hx
  · exact hy

/-- **The order is kept**: the smaller number is that of the smaller integer. -/
theorem least_ofInt (i j : Int) : least (ofInt i) (ofInt j) = ofInt (min i j) := by
  rw [least_eq (ofInt_ne_nan i) (ofInt_ne_nan j)]
  rcases Int.le_total i j with hle | hle
  · rw [Int.min_eq_left hle]
    rcases less_or_eq_of_le hle with hless | hsame
    · rw [if_pos hless]
    · rw [hsame, ite_self]
  · rw [Int.min_eq_right hle, if_neg (not_less_of_le hle)]

theorem greatest_ofInt (i j : Int) : greatest (ofInt i) (ofInt j) = ofInt (max i j) := by
  rw [greatest_eq (ofInt_ne_nan i) (ofInt_ne_nan j)]
  rcases Int.le_total i j with hle | hle
  · rw [Int.max_eq_right hle, if_neg (not_less_of_le hle)]
  · rw [Int.max_eq_left hle]
    rcases less_or_eq_of_le hle with hless | hsame
    · rw [if_pos hless]
    · rw [hsame, ite_self]

theorem keyOf_bounds (i : Int) : -(codeLimit : Int) ≤ keyOf i ∧ keyOf i ≤ codeLimit := by
  have hcode : codeOf i.natAbs ≤ codeLimit := Nat.min_le_right ..
  rw [keyOf]
  split <;> omega

/-- The infinities that the smallest and the largest number are sought from are left at once. -/
theorem least_infinite (i : Int) : least (.infinite false) (ofInt i) = ofInt i := by
  have hnot : ¬ (codeLimit : Int) < keyOf i := Int.not_lt.mpr (keyOf_bounds i).2
  rw [least_eq (by decide) (ofInt_ne_nan i), less, key?_ofInt]
  simp [key?, hnot]

theorem greatest_infinite (i : Int) : greatest (.infinite true) (ofInt i) = ofInt i := by
  have hnot : ¬ keyOf i < -(codeLimit : Int) := Int.not_lt.mpr (keyOf_bounds i).1
  rw [greatest_eq (by decide) (ofInt_ne_nan i), less, key?_ofInt]
  simp [key?, hnot]

/-- The smallest of the numbers of some integers is the number of the smallest of them. -/
theorem foldl_least {items : List Int} {m : Int} (hmem : m ∈ items) (hle : ∀ i ∈ items, m ≤ i) :
    (items.map ofInt).foldl least (.infinite false) = ofInt m := by
  have hmin : items.min? = some m := List.min?_eq_some_iff.mpr ⟨hmem, hle⟩
  cases items with
  | nil => cases hmem
  | cons i items =>
    rw [List.min?_cons', Option.some.injEq] at hmin
    rw [List.map_cons, List.foldl_cons, least_infinite, List.foldl_map, ← hmin]
    exact List.foldl_hom ofInt fun x y => least_ofInt x y

theorem foldl_greatest {items : List Int} {m : Int} (hmem : m ∈ items)
    (hle : ∀ i ∈ items, i ≤ m) :
    (items.map ofInt).foldl greatest (.infinite true) = ofInt m := by
  have hmax : items.max? = some m := List.max?_eq_some_iff.mpr ⟨hmem, hle⟩
  cases items with
  | nil => cases hmem
  | cons i items =>
    rw [List.max?_cons', Option.some.injEq] at hmax
    rw [List.map_cons, List.foldl_cons, greatest_infinite, List.foldl_map, ← hmax]
    exact List.foldl_hom ofInt fun x y => greatest_ofInt x y

end Double

-- ---------------------------------------------------------------------------
-- Filters
-- ---------------------------------------------------------------------------

namespace Filter

theorem ofName_name (filter : Filter) : ofName filter.name = .ok filter := by
  cases filter <;> rfl

/-- An array of integers. -/
def integers (items : List Int) : Value := .array (items.map fun i => .number (.int i))

/-- The integer that a filter is to give for an integer, or for an array of integers. -/
inductive Gives : Filter → Value → Int → Prop
  | floor (n : Int) : Gives .floor (.number (.int n)) n
  | ceil (n : Int) : Gives .ceil (.number (.int n)) n
  | round (n : Int) : Gives .round (.number (.int n)) n
  | abs (n : Int) : Gives .abs (.number (.int n)) n.natAbs
  | min {items : List Int} {m : Int} :
    m ∈ items → (∀ i ∈ items, m ≤ i) → Gives .min (integers items) m
  | max {items : List Int} {m : Int} :
    m ∈ items → (∀ i ∈ items, i ≤ m) → Gives .max (integers items) m

/-- The filter gives the number of this integer. -/
theorem Gives.apply {filter : Filter} {value : Value} {n : Int} (h : Gives filter value n)
    (hrange : n.natAbs < Nat.pow 2 64) :
    filter.apply (some value) = .ok (some (Value.ofDouble (Double.ofInt n))) := by
  have hitems (items : List Int) : (items.map fun i => Value.number (.int i)).map
      Value.wholeNumber = items.map Double.ofInt := by
    rw [List.map_map]
    rfl
  cases h with
  | floor n =>
    show Except.ok (some (Value.ofDouble (Double.ofInt n).floor)) = _
    rw [Double.floor_ofInt hrange]
  | ceil n =>
    show Except.ok (some (Value.ofDouble (Double.ofInt n).ceil)) = _
    rw [Double.ceil_ofInt hrange]
  | round n =>
    show Except.ok (some (Value.ofDouble (Double.ofInt n).roundHalfUp)) = _
    rw [Double.roundHalfUp_ofInt hrange]
  | abs n =>
    show Except.ok (some (Value.ofDouble (Double.ofInt n).abs)) = _
    rw [Double.abs_ofInt]
  | min hmem hle =>
    rw [Filter.apply, integers, onArray, expectArray, Except.map, hitems,
      Double.foldl_least hmem hle]
  | max hmem hle =>
    rw [Filter.apply, integers, onArray, expectArray, Except.map, hitems,
      Double.foldl_greatest hmem hle]

end Filter

-- ---------------------------------------------------------------------------
-- Tags
-- ---------------------------------------------------------------------------

theorem Value.ofDouble_ofInt {n : Int} (h : n.natAbs < Nat.pow 2 64) :
    Value.ofDouble (Double.ofInt n) = .number (.double (Double.ofInt n)) := by
  obtain ⟨code, hcode, -, -⟩ := Double.ofInt_finite h
  rw [hcode]
  rfl

namespace Run

variable {σ : Type}

/-- The tag becomes the digits of the integer of 53 bits. -/
theorem evaluateTag_gives {lookup : Text → Run σ (Option Value)} (config : Config)
    (escaped : Bool) {path : Text} (indent : Text) {filter : Filter} {value : Value} {n : Int}
    {s s' : Store σ} (hgives : filter.Gives value n) (hrange : n.natAbs < Nat.pow 2 64)
    (hpath : (lookup path).exec s = (.ok (some value), s')) :
    (evaluateTag lookup config ⟨escaped, path, some filter.name⟩ indent).exec s =
      (.ok (Text.ofInt (Double.roundedInt n)), s') := by
  have happly : Filter.applyNamed filter.name (some value) =
      .ok (some (.number (.double (Double.ofInt n)))) := by
    rw [Filter.applyNamed, Filter.ofName_name, ← Value.ofDouble_ofInt hrange]
    exact hgives.apply hrange
  have htext : (evaluateTag lookup config ⟨escaped, path, some filter.name⟩ indent).exec s = _ :=
    evaluateTag_exec hpath config indent
  rw [htext]
  simp only [tagText, happly, Config.textOf, Value.toText, Value.numberText,
    Double.format_ofInt hrange]
  rfl

/-- **A number filter writes the nearest integer of 53 bits.** Let the path of a tag lead to an
integer or an array of integers, and let `n` be the integer that the filter is to give: for `floor`,
`ceil` and `round` the integer itself, for `abs` its magnitude, for `min` and `max` the smallest and
the largest of the array. The tag becomes the digits of the integer nearest to `n` that has at most
53 significant bits, whatever the options are and whether or not the tag escapes. This is `n` if and
only if `n` has no more than 53, as all integers up to 2^53 in magnitude. -/
theorem evaluateTag_integer {lookup : Text → Run σ (Option Value)} (config : Config)
    (escaped : Bool) {path : Text} (indent : Text) {filter : Filter} {value : Value} {n : Int}
    {s s' : Store σ} (hgives : filter.Gives value n) (hrange : n.natAbs < Nat.pow 2 64)
    (hpath : (lookup path).exec s = (.ok (some value), s')) :
    ∃ j, Double.Nearest n j ∧ (j = n ↔ Double.Fits n.natAbs) ∧
      (n.natAbs ≤ Nat.pow 2 53 → j = n) ∧
      (evaluateTag lookup config ⟨escaped, path, some filter.name⟩ indent).exec s =
        (.ok (Text.ofInt j), s') := by
  have hnearest := Double.nearest_roundedInt n
  refine ⟨Double.roundedInt n, hnearest, hnearest.eq_iff, ?_, ?_⟩
  · exact fun hle => hnearest.eq_iff.mpr (Double.fits_of_le hle)
  · exact evaluateTag_gives config escaped indent hgives hrange hpath

/-- Of three integers the largest has 54 significant bits, so another one is written. -/
theorem evaluateTag_integer_max :
    let items : List Int := [-2, 9007199254740993, 7]
    let lookup : Text → Run Unit (Option Value) := fun _ => pure (some (Filter.integers items))
    (9007199254740993 : Int).natAbs < Nat.pow 2 64 ∧ ∃ j, Double.Nearest 9007199254740993 j ∧
      (j = 9007199254740993 ↔ Double.Fits (9007199254740993 : Int).natAbs) ∧
      ((9007199254740993 : Int).natAbs ≤ Nat.pow 2 53 → j = 9007199254740993) ∧
      (evaluateTag lookup .default ⟨true, "ns".toList, some Filter.max.name⟩ []).exec
        (Store.empty ()) = (.ok (Text.ofInt j), Store.empty ()) := by
  intro items lookup
  have hmem : (9007199254740993 : Int) ∈ items := by decide
  have hlargest : ∀ i ∈ items, i ≤ 9007199254740993 := by decide
  have hrange : (9007199254740993 : Int).natAbs < Nat.pow 2 64 := by decide
  exact ⟨hrange, evaluateTag_integer .default true [] (.max hmem hlargest) hrange rfl⟩

/-- The digits of an integer with 54 significant bits change. -/
theorem evaluateTag_floor_ne :
    ¬ ∀ n : Int, -(Nat.pow 2 63 : Nat) ≤ n → n < Nat.pow 2 64 →
      let params : Value := .object [("n".toList, .number (.int n))]
      ((evaluateTag (lookup (fun _ _ => pure []) 0 params) .default
        ⟨false, "n".toList, some Filter.floor.name⟩ []).exec (Store.empty ())).1 =
          .ok (Text.ofInt n) := by
  intro hexact
  have hpath : (lookup (fun _ _ => pure []) 0 (.object [("n".toList, .number (.int
      9007199254740993))]) "n".toList).exec (Store.empty ()) =
        (.ok (some (.number (.int 9007199254740993))), Store.empty ()) := rfl
  have hwritten := evaluateTag_gives .default false [] (.floor 9007199254740993) (by decide) hpath
  have hsame := (hexact 9007199254740993 (by decide) (by decide)).symm.trans
    (congrArg Prod.fst hwritten)
  exact absurd hsame (by decide)

end Run

end Templating
