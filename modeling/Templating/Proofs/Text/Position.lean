import Templating.Proofs.Text.Search

/-!
# Positions in a text

Positions are counted in the bytes of the UTF-8 encoding. No search walks by them, so what is found
is said of the texts before and after it first; this module says the same with positions.

* `Text.At` — what stands at a byte, which has to be the beginning of a character or the end;
* `Text.OccursAt` — a pattern occurs at a byte;
* `Text.nowhere_iff_at` — a thing begins nowhere in a part of a text exactly if it begins at no
  byte of that part.
-/

namespace Templating.Text

-- ---------------------------------------------------------------------------
-- Measure
-- ---------------------------------------------------------------------------

theorem byteSize_append : ∀ a b : Text, byteSize (a ++ b) = byteSize a + byteSize b
  | [], b => (Nat.zero_add _).symm
  | c :: a, b => by rw [List.cons_append, byteSize, byteSize, byteSize_append a b, Nat.add_assoc]

theorem byteSize_cons_pos (c : Char) (t : Text) : 0 < byteSize (c :: t) :=
  Nat.lt_of_lt_of_le c.utf8Size_pos (Nat.le_add_right ..)

theorem eq_nil_of_byteSize {t : Text} (h : byteSize t = 0) : t = [] := by
  cases t with
  | nil => rfl
  | cons c t => exact absurd h (Nat.ne_of_gt (byteSize_cons_pos c t))

-- ---------------------------------------------------------------------------
-- What stands at a byte
-- ---------------------------------------------------------------------------

/-- `rest` is what stands at the byte `i` of the text. At a byte inside a character nothing does. -/
def At (t : Text) (i : Nat) (rest : Text) : Prop :=
  ∃ before, t = before ++ rest ∧ byteSize before = i

/-- The pattern occurs at the byte `i` of the text. -/
def OccursAt (pattern t : Text) (i : Nat) : Prop := ∃ after, At t i (pattern ++ after)

theorem at_append (before rest : Text) : At (before ++ rest) (byteSize before) rest :=
  ⟨before, rfl, rfl⟩

section At

variable {t rest rest' : Text} {i j : Nat}

theorem At.append {a : Text} (h : At t i (a ++ rest)) : At t (i + byteSize a) rest := by
  obtain ⟨before, rfl, rfl⟩ := h
  exact ⟨before ++ a, (List.append_assoc ..).symm, byteSize_append ..⟩

/-- What stands at a byte ends with what stands at a later one. -/
theorem At.exists_append (h : At t i rest) (h' : At t j rest') (hle : i ≤ j) :
    ∃ mid, rest = mid ++ rest' ∧ j = i + byteSize mid := by
  obtain ⟨before, rfl, rfl⟩ := h
  obtain ⟨before', heq, rfl⟩ := h'
  rcases List.append_eq_append_iff.mp heq with ⟨mid, rfl, rfl⟩ | ⟨mid, rfl, rfl⟩
  · exact ⟨mid, rfl, byteSize_append ..⟩
  · -- the later byte is not before the earlier one, so the two are the same
    rw [byteSize_append] at hle ⊢
    obtain rfl : mid = [] := eq_nil_of_byteSize (by omega)
    exact ⟨[], rfl, by simp [byteSize]⟩

theorem At.unique (h : At t i rest) (h' : At t i rest') : rest = rest' := by
  obtain ⟨mid, rfl, hsize⟩ := h.exists_append h' (Nat.le_refl i)
  obtain rfl : mid = [] := eq_nil_of_byteSize (by omega)
  rfl

theorem At.byteSize (h : At t i rest) : i + byteSize rest = byteSize t := by
  obtain ⟨before, rfl, rfl⟩ := h
  exact (byteSize_append ..).symm

/-- A pattern occurs in what stands at a byte exactly if it occurs at that byte or a later one. -/
theorem At.infix_iff (h : At t i rest) {pattern : Text} :
    pattern <:+: rest ↔ ∃ j, i ≤ j ∧ OccursAt pattern t j := by
  constructor
  · rintro ⟨a, b, rfl⟩
    rw [List.append_assoc] at h
    exact ⟨_, Nat.le_add_right .., b, h.append⟩
  · rintro ⟨j, hle, after, hat⟩
    obtain ⟨mid, rfl, -⟩ := h.exists_append hat hle
    exact ⟨mid, after, List.append_assoc ..⟩

/-- A thing begins nowhere in a part of a text exactly if it begins at no byte of the part. -/
theorem nowhere_iff_at {begins : Text → Prop} {before : Text} (h : At t i (before ++ rest)) :
    Nowhere begins before rest ↔
      ∀ j r, At t j r → i ≤ j → j < i + byteSize before → ¬ begins r := by
  rw [nowhere_iff]
  constructor
  · intro hno j r hat hle hlt
    obtain ⟨mid, heq, rfl⟩ := h.exists_append hat hle
    rcases List.append_eq_append_iff.mp heq with ⟨more, rfl, -⟩ | ⟨more, rfl, rfl⟩
    · -- the byte would lie behind the part
      rw [byteSize_append] at hlt
      omega
    · cases more with
      | nil =>
        rw [List.append_nil] at hlt
        omega
      | cons c v => exact hno mid c v rfl
  · rintro hno u c v rfl
    rw [List.append_assoc] at h
    refine hno _ _ h.append (Nat.le_add_right ..) ?_
    have hpos := byteSize_cons_pos c v
    rw [byteSize_append]
    omega

/-- In a text a thing that takes up room begins nowhere exactly if it begins at no byte. -/
theorem nowhere_nil_iff_at {begins : Text → Prop} (hnil : ¬ begins []) :
    Nowhere begins t [] ↔ ∀ j r, At t j r → ¬ begins r := by
  have hwhole : At t 0 (t ++ []) := ⟨[], by simp, rfl⟩
  rw [nowhere_iff_at hwhole]
  constructor
  · intro hno j r hat
    by_cases hlt : j < Text.byteSize t
    · exact hno j r hat (Nat.zero_le j) (by omega)
    · have hsize := hat.byteSize
      obtain rfl : r = [] := eq_nil_of_byteSize (by omega)
      exact hnil
  · exact fun hno j r hat _ _ => hno j r hat

end At

end Templating.Text
