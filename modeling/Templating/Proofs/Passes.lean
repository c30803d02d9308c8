import Templating.Proofs.Draft
import Templating.Proofs.Run
import Templating.Rendering

/-!
# Passes over a text

The loop of passes, said of the text itself: take the leftmost tag, evaluate it, replace every
occurrence, start again. Beside the outcome it keeps a record of the evaluations, so that two ways
to render can be compared by the evaluations they make and not only by what comes out.

* `Evaluation`, `Course` — an evaluation of a tag; what a rendering does from a store;
* `Run.passes` — the loop over texts;
* `Run.settle_exec` — the loop over drafts is this loop, for every way to evaluate tags.
-/

namespace Templating

variable {σ : Type}

/-- An evaluation of a tag in the course of a rendering. -/
structure Evaluation where
  tag : Tag
  indent : Text
  outcome : Except Failure Text
  deriving DecidableEq

/-- What a rendering does: the evaluations in order, the outcome, and the store that is left. -/
structure Course (σ : Type) where
  evaluations : List Evaluation
  outcome : Except Failure Text
  store : Store σ

/-- The course that makes one evaluation more, before all others. -/
def Course.after (course : Course σ) (first : Evaluation) : Course σ :=
  { course with evaluations := first :: course.evaluations }

@[simp] theorem Course.after_outcome (course : Course σ) (first : Evaluation) :
    (course.after first).outcome = course.outcome := rfl

@[simp] theorem Course.after_store (course : Course σ) (first : Evaluation) :
    (course.after first).store = course.store := rfl

@[simp] theorem Course.after_evaluations (course : Course σ) (first : Evaluation) :
    (course.after first).evaluations = first :: course.evaluations := rfl

namespace Run

/-- Replaces the tags of a text, leftmost first, until none is left. -/
def passes (maxPasses : Nat) (evaluate : Tag → Text → Run σ Text) :
    (passesLeft : Nat) → Text → Store σ → Course σ
  | passesLeft, t, s =>
    match Tag.find? t with
    | none => ⟨[], .ok t, s⟩
    | some found =>
      let indent := Text.trailingIndent found.before
      match (evaluate found.tag indent).exec s with
      | (.error failure, s) => ⟨[⟨found.tag, indent, .error failure⟩], .error failure, s⟩
      | (.ok value, s) =>
        let first : Evaluation := ⟨found.tag, indent, .ok value⟩
        match passesLeft with
        | 0 => ⟨[first], .error (.error (.unsettled maxPasses)), s⟩
        | passesLeft + 1 =>
          if Text.containsPattern found.tag.text value then
            ⟨[first], .error (.error (.selfExpansion found.tag.text)), s⟩
          else
            (passes maxPasses evaluate passesLeft
              (Text.replaceAll found.tag.text value t) s).after first

section Steps

variable {maxPasses passesLeft : Nat} {evaluate : Tag → Text → Run σ Text} {t value : Text}
  {found : Tag.Found} {s s' : Store σ} {failure : Failure}

/-- Without a tag the text is the outcome. -/
theorem passes_done (h : Tag.find? t = none) :
    passes maxPasses evaluate passesLeft t s = ⟨[], .ok t, s⟩ := by
  rw [passes, h]

/-- A tag that fails ends the loop, however many passes are left. -/
theorem passes_error (h : Tag.find? t = some found)
    (heval : (evaluate found.tag (Text.trailingIndent found.before)).exec s =
      (.error failure, s')) :
    passes maxPasses evaluate passesLeft t s =
      ⟨[⟨found.tag, Text.trailingIndent found.before, .error failure⟩], .error failure, s'⟩ := by
  rw [passes, h]
  simp only [heval]

/-- The limit is noticed after the evaluation of the tag for which no pass is left. -/
theorem passes_unsettled (h : Tag.find? t = some found)
    (heval : (evaluate found.tag (Text.trailingIndent found.before)).exec s = (.ok value, s')) :
    passes maxPasses evaluate 0 t s =
      ⟨[⟨found.tag, Text.trailingIndent found.before, .ok value⟩],
        .error (.error (.unsettled maxPasses)), s'⟩ := by
  rw [passes, h]
  simp only [heval]

/-- A value that contains its tag ends the loop. -/
theorem passes_self (h : Tag.find? t = some found)
    (heval : (evaluate found.tag (Text.trailingIndent found.before)).exec s = (.ok value, s'))
    (hself : found.tag.text <:+: value) :
    passes maxPasses evaluate (passesLeft + 1) t s =
      ⟨[⟨found.tag, Text.trailingIndent found.before, .ok value⟩],
        .error (.error (.selfExpansion found.tag.text)), s'⟩ := by
  rw [passes, h]
  simp only [heval, if_pos (Text.containsPattern_iff.mpr hself)]

/-- Any other value takes the place of every occurrence of the tag. -/
theorem passes_replace (h : Tag.find? t = some found)
    (heval : (evaluate found.tag (Text.trailingIndent found.before)).exec s = (.ok value, s'))
    (hself : ¬ found.tag.text <:+: value) :
    passes maxPasses evaluate (passesLeft + 1) t s =
      (passes maxPasses evaluate passesLeft (Text.replaceAll found.tag.text value t) s').after
        ⟨found.tag, Text.trailingIndent found.before, .ok value⟩ := by
  rw [passes, h]
  simp only [heval, Text.containsPattern_eq_false_iff.mpr hself, Bool.false_eq_true, if_false]

end Steps

/-- **The loop over drafts is the loop over texts.** A sound draft stands for its text in every
pass, whatever the evaluation of tags does to the store. -/
theorem settle_exec {maxPasses : Nat} {evaluate : Tag → Text → Run σ Text} :
    ∀ (passesLeft : Nat) {d : Draft}, d.Sound → ∀ s : Store σ,
      (settle maxPasses evaluate passesLeft d).exec s =
        ((passes maxPasses evaluate passesLeft d.text s).outcome,
          (passes maxPasses evaluate passesLeft d.text s).store)
  | passesLeft, d, hd, s => by
    cases hplace : d.place? with
    | none =>
      rw [settle, hplace, passes_done ((Draft.place?_eq_none_iff hd).mp hplace)]
      rfl
    | some place =>
      obtain ⟨hsound, htext, hindent⟩ := Draft.place?_eq_some hd hplace
      have hfound := Draft.Place.find?_text hsound
      rw [settle, hplace, ← htext]
      simp only [hindent]
      rcases heval : (evaluate place.tag (Text.trailingIndent place.before)).exec s
        with ⟨outcome, s'⟩
      cases outcome with
      | error failure => rw [exec_bind_error heval, passes_error hfound heval]
      | ok value =>
        rw [exec_bind_ok heval]
        -- the number of passes left matters only once the tag has a value
        cases passesLeft with
        | zero =>
          rw [passes_unsettled hfound heval]
          rfl
        | succ left =>
          by_cases hself : place.tag.text <:+: value
          · simp only [if_pos (Text.containsPattern_iff.mpr hself)]
            rw [passes_self hfound heval hself]
            rfl
          · have hcontains := Text.containsPattern_eq_false_iff.mpr hself
            simp only [hcontains, Bool.false_eq_true, if_false]
            rw [settle_exec left (Draft.Place.sound_fill hsound value),
              Draft.Place.fill_text hsound, passes_replace hfound heval hself]
            rfl

end Run

end Templating
