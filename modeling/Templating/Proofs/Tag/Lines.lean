import Templating.Proofs.Tag.Position
import Templating.Proofs.Text.Lines

/-!
# Tags in indented texts

An indent is made of spaces and tabs, which are neither marks nor braces nor bars. Behind a line
feed it can only stand inside the body of a tag or outside of all tags, so it makes no tag out of
what was none.

* `Text.cut?_indentContinuation` — a cut of an indented text is that of the text;
* `Tag.not_begins_indentContinuation` — no tag begins where none began;
* `Tag.free_indentLines` — no tag stands in an indented text if none stands in the text.
-/

namespace Templating

-- ---------------------------------------------------------------------------
-- Characters
-- ---------------------------------------------------------------------------

namespace Text

variable {indent : Text} {c : Char}

/-- The text is made of spaces and tabs. -/
def Blank (indent : Text) : Prop := ∀ c ∈ indent, isIndent c = true

theorem Blank.not_mem (h : Blank indent) (hc : isIndent c = false) : c ∉ indent := by
  intro hmem
  rw [h c hmem] at hc
  cases hc

theorem Blank.newline_not_mem (h : Blank indent) : '\n' ∉ indent := h.not_mem rfl

theorem Blank.append {a b : Text} (ha : Blank a) (hb : Blank b) : Blank (a ++ b) :=
  List.forall_mem_append.mpr ⟨ha, hb⟩

theorem mem_indentContinuation (hc : c ≠ '\n') (hindent : c ∉ indent) : ∀ {t : Text},
    c ∈ indentContinuation indent t ↔ c ∈ t
  | [] => Iff.rfl
  | d :: t => by
    by_cases hd : d = '\n'
    · rw [hd, indentContinuation_newline, indentLines, List.mem_cons, List.mem_cons,
        List.mem_append, mem_indentContinuation hc hindent, or_iff_right hindent]
    · rw [indentContinuation_cons hd, List.mem_cons, List.mem_cons,
        mem_indentContinuation hc hindent]

theorem indentContinuation_eq_nil : ∀ {t : Text}, indentContinuation indent t = [] ↔ t = []
  | [] => Iff.rfl
  | d :: t => by
    by_cases hd : d = '\n'
    · rw [hd, indentContinuation_newline]
      exact iff_of_false (List.cons_ne_nil _ _) (List.cons_ne_nil _ _)
    · rw [indentContinuation_cons hd]
      exact iff_of_false (List.cons_ne_nil _ _) (List.cons_ne_nil _ _)

/-- The first occurrence of a character stays the first. -/
theorem cut?_indentContinuation (hc : c ≠ '\n') (hindent : c ∉ indent) (t : Text) :
    cut? c (indentContinuation indent t) = (cut? c t).map fun (before, after) =>
      (indentContinuation indent before, indentContinuation indent after) := by
  cases hcut : cut? c t with
  | none =>
    rw [cut?_eq_none_iff] at hcut
    exact cut?_eq_none_iff.mpr (mt (mem_indentContinuation hc hindent).mp hcut)
  | some parts =>
    obtain ⟨rfl, hbefore⟩ := cut?_eq_some_iff.mp hcut
    rw [indentContinuation_append, indentContinuation_cons hc]
    exact cut?_append (mt (mem_indentContinuation hc hindent).mp hbefore) _

end Text

-- ---------------------------------------------------------------------------
-- Tags
-- ---------------------------------------------------------------------------

namespace Tag

open Text

variable {indent t : Text}

/-- What is no body of a tag is none when it is indented. -/
theorem ofBody?_indentContinuation (hindent : '|' ∉ indent) {escaped : Bool} {body : Text}
    (h : ofBody? escaped body = none) :
    ofBody? escaped (indentContinuation indent body) = none := by
  rw [ofBody?] at h ⊢
  rw [cut?_indentContinuation (by decide) hindent]
  cases hcut : cut? '|' body with
  | none =>
    rw [hcut] at h
    cases h
  | some parts =>
    rw [hcut] at h
    simp only [Option.map_some, indentContinuation_eq_nil,
      mem_indentContinuation (show '|' ≠ '\n' by decide) hindent] at h ⊢
    split at h
    · next hnone => exact if_pos hnone
    · cases h

/-- Behind a character that is no line feed no tag begins in an indented text if none begins in the
text. -/
theorem not_begins_indentContinuation (hindent : Blank indent) {c : Char}
    (h : ¬ Begins (c :: t)) : ¬ Begins (c :: indentContinuation indent t) := by
  by_cases hbrace : t.head? = some '{'
  · obtain ⟨t, rfl⟩ := List.head?_eq_some_iff.mp hbrace
    rw [indentContinuation_cons (by decide)]
    have hcut := cut?_indentContinuation (c := '}') (by decide) (hindent.not_mem rfl) t
    rw [← at?_eq_none_iff] at h ⊢
    cases hparts : cut? '}' t with
    | none =>
      rw [hparts] at hcut
      rw [at?, hcut]
      cases ofMark? c <;> rfl
    | some parts =>
      obtain ⟨rfl, hbody⟩ := cut?_eq_some_iff.mp hparts
      rw [hparts] at hcut
      obtain ⟨hindented, hbody'⟩ := cut?_eq_some_iff.mp hcut
      rw [at?_brace hbody, Option.bind_eq_none_iff] at h
      rw [hindented, at?_brace hbody', Option.bind_eq_none_iff]
      intro escaped hmark
      have hnone := Option.map_eq_none_iff.mp (h escaped hmark)
      exact Option.map_eq_none_iff.mpr
        (ofBody?_indentContinuation (hindent.not_mem rfl) hnone)
  · -- the character behind a mark would have to be a brace
    intro hbegins
    refine not_bracing_cons ?_ hbegins.bracing
    cases t with
    | nil => exact hbrace
    | cons d t =>
      by_cases hd : d = '\n'
      · rw [hd, indentContinuation_newline]
        intro heq
        exact absurd (Option.some.inj heq) (by decide)
      · rw [indentContinuation_cons hd]
        exact hbrace

/-- No tag begins in an indent. -/
theorem nowhere_begins_blank (rest : Text) : ∀ {indent : Text}, Blank indent →
    Text.Nowhere Begins indent rest
  | [], _ => trivial
  | c :: indent, h => by
    refine ⟨fun hbegins => ?_,
      nowhere_begins_blank rest fun d hd => h d (List.mem_cons_of_mem c hd)⟩
    obtain ⟨escaped, hmark⟩ := Option.isSome_iff_exists.mp hbegins.mark
    have hblank := h c (List.mem_cons_self ..)
    rw [ofMark?_eq_some_iff.mp hmark] at hblank
    cases escaped <;> cases hblank

theorem nowhere_begins_indentContinuation (hindent : Blank indent) : ∀ {t : Text},
    Text.Nowhere Begins t [] → Text.Nowhere Begins (indentContinuation indent t) []
  | [], _ => trivial
  | c :: t, ⟨hc, ht⟩ => by
    have hrest := nowhere_begins_indentContinuation hindent ht
    by_cases hnewline : c = '\n'
    · rw [hnewline, indentContinuation_newline, indentLines]
      refine ⟨fun hbegins => ?_, nowhere_append.mpr ⟨nowhere_begins_blank _ hindent, hrest⟩⟩
      cases hbegins.mark
    · rw [indentContinuation_cons hnewline]
      rw [List.append_nil] at hc
      refine ⟨?_, hrest⟩
      rw [List.append_nil]
      exact not_begins_indentContinuation hindent hc

/-- **Indenting makes no tags.** -/
theorem free_indentLines (hindent : Blank indent) (hfree : ∀ (tag : Tag) i, ¬ tag.StandsAt t i) :
    ∀ (tag : Tag) i, ¬ tag.StandsAt (indentLines indent t) i := by
  rw [← find?_eq_none_iff_standsAt, find?_eq_none_iff] at hfree ⊢
  exact nowhere_append.mpr
    ⟨nowhere_begins_blank _ hindent, nowhere_begins_indentContinuation hindent hfree⟩

end Tag

end Templating
