import Mathlib.Data.List.Basic
import Templating.Proofs.Text.Search

/-!
# Lines

The lines of a text are the pieces between its line feeds. An indent that has no line feed goes
before each of them, whether it is put before all lines at once or before all but the first, which
stands behind it already. Nothing of a text is lost by this, and indenting twice is indenting once
by both.

* `induction_lines` — induction on a text, line by line;
* `splitOn_indentLines` — the lines of an indented text;
* `intercalate_drop_indentLines` — they give back the text;
* `indentLines_indentLines` — an indent in front of another.
-/

namespace Templating.Text

variable {indent outer inner line t : Text}

-- ---------------------------------------------------------------------------
-- Continuation lines
-- ---------------------------------------------------------------------------

theorem indentContinuation_append (indent a b : Text) :
    indentContinuation indent (a ++ b) =
      indentContinuation indent a ++ indentContinuation indent b :=
  List.flatMap_append

/-- What stands behind a line feed is indented like a text of its own. -/
theorem indentContinuation_newline (indent t : Text) :
    indentContinuation indent ('\n' :: t) = '\n' :: indentLines indent t := rfl

theorem indentContinuation_cons {c : Char} (h : c ≠ '\n') (indent t : Text) :
    indentContinuation indent (c :: t) = c :: indentContinuation indent t := by
  rw [indentContinuation, List.flatMap_cons, if_neg h]
  rfl

/-- A text of one line follows no indent. -/
theorem indentContinuation_of_not_mem (indent : Text) : ∀ {t : Text}, '\n' ∉ t →
    indentContinuation indent t = t
  | [], _ => rfl
  | c :: t, h => by
    rw [List.mem_cons, not_or] at h
    rw [indentContinuation_cons (Ne.symm h.1), indentContinuation_of_not_mem indent h.2]

/-- Without an indent a text stays as it is. -/
theorem indentContinuation_nil : ∀ t : Text, indentContinuation [] t = t
  | [] => rfl
  | c :: t => by
    by_cases hc : c = '\n'
    · rw [hc, indentContinuation_newline, indentLines, indentContinuation_nil t]
      rfl
    · rw [indentContinuation_cons hc, indentContinuation_nil t]

theorem indentLines_line (h : '\n' ∉ line) (indent t : Text) :
    indentLines indent (line ++ '\n' :: t) = indent ++ line ++ '\n' :: indentLines indent t := by
  rw [indentLines, indentContinuation_append, indentContinuation_of_not_mem indent h,
    indentContinuation_newline, List.append_assoc]

-- ---------------------------------------------------------------------------
-- Line by line
-- ---------------------------------------------------------------------------

/-- A text is its last line, or a line, a line feed, and a text. -/
theorem induction_lines {P : Text → Prop} (last : ∀ line, '\n' ∉ line → P line)
    (next : ∀ line t, '\n' ∉ line → P t → P (line ++ '\n' :: t)) (t : Text) : P t := by
  -- the beginning of the line in hand is carried along
  suffices h : ∀ line, '\n' ∉ line → P (line ++ t) from h [] List.not_mem_nil
  induction t with
  | nil =>
    intro line hline
    rw [List.append_nil]
    exact last line hline
  | cons c t ih =>
    intro line hline
    by_cases hc : c = '\n'
    · rw [hc]
      exact next line t hline (ih [] List.not_mem_nil)
    · rw [← List.singleton_append, ← List.append_assoc]
      refine ih (line ++ [c]) ?_
      simp [hline, Ne.symm hc]

/-- **Every line of an indented text is a line behind the indent**, empty lines and the last one
too. -/
theorem splitOn_indentLines (hindent : '\n' ∉ indent) (t : Text) :
    splitOn '\n' (indentLines indent t) = (splitOn '\n' t).map (indent ++ ·) := by
  have hbehind : ∀ line, '\n' ∉ line → '\n' ∉ indent ++ line := by
    intro line hline
    simp [hindent, hline]
  induction t using induction_lines with
  | last line hline =>
    rw [indentLines, indentContinuation_of_not_mem indent hline,
      splitOn_of_not_mem (hbehind line hline), splitOn_of_not_mem hline]
    rfl
  | next line t hline ih =>
    rw [indentLines_line hline, splitOn_append (hbehind line hline), ih, splitOn_append hline]
    rfl

/-- The pieces of a text make up the text. -/
theorem intercalate_splitOn (t : Text) : ['\n'].intercalate (splitOn '\n' t) = t := by
  induction t using induction_lines with
  | last line hline =>
    rw [splitOn_of_not_mem hline]
    exact List.append_nil line
  | next line t hline ih =>
    obtain ⟨piece, pieces, hpieces⟩ := List.exists_cons_of_ne_nil (splitOn_ne_nil '\n' t)
    rw [hpieces] at ih
    rw [splitOn_append hline, hpieces, List.intercalate_cons_cons, ih, List.append_assoc]
    rfl

/-- Without its indents an indented text is the text again. -/
theorem intercalate_drop_indentLines (hindent : '\n' ∉ indent) (t : Text) :
    ['\n'].intercalate ((splitOn '\n' (indentLines indent t)).map (List.drop indent.length)) =
      t := by
  have hdrop : List.drop indent.length ∘ (indent ++ ·) = (id : Text → Text) := by
    funext line
    exact List.drop_left
  rw [splitOn_indentLines hindent, List.map_map, hdrop, List.map_id, intercalate_splitOn]

/-- Indenting twice is indenting once. -/
theorem indentLines_indentLines (hinner : '\n' ∉ inner) (outer t : Text) :
    indentLines outer (indentLines inner t) = indentLines (outer ++ inner) t := by
  induction t using induction_lines with
  | last line hline =>
    have hbehind : '\n' ∉ inner ++ line := by simp [hinner, hline]
    rw [indentLines, indentLines, indentLines, indentContinuation_of_not_mem inner hline,
      indentContinuation_of_not_mem outer hbehind,
      indentContinuation_of_not_mem (outer ++ inner) hline, List.append_assoc]
  | next line t hline ih =>
    have hbehind : '\n' ∉ inner ++ line := by simp [hinner, hline]
    rw [indentLines_line hline, indentLines_line hbehind, ih, indentLines_line hline,
      List.append_assoc outer inner line]

end Templating.Text
