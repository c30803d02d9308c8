import Templating.Proofs.Tag
import Templating.Proofs.Text.Position

/-!
# Where a tag stands

The grammar of inline tags, said without the reader of tags: where in a text a tag stands, and which
one stands first. A mark and a brace that are no tag can hide the tags up to the next closing brace
or not, so what stands first depends on more than the first mark with a brace.

* `Tag.Spelled`, `Tag.StandsAt` — the grammar of tags, and a tag in a text;
* `Tag.at?_iff_standsAt` — the reader reads a tag where one stands, and nowhere else;
* `Tag.FirstBehind` — the tag that stands first; `Tag.find?_iff_firstBehind` says that it is found.
-/

namespace Templating.Tag

/-- What the text between the braces of a tag says: a path without a bar, or a path, the only bar,
and a filter behind it. -/
inductive Spelled : Tag → Text → Prop
  | plain {escaped : Bool} {path : Text} : '|' ∉ path → Spelled ⟨escaped, path, none⟩ path
  | filtered {escaped : Bool} {path filter : Text} : '|' ∉ path → '|' ∉ filter → filter ≠ [] →
      Spelled ⟨escaped, path, some filter⟩ (path ++ '|' :: filter)

/-- A tag stands at the byte `i` of a text: a dollar or percent sign and a brace, and up to the
first closing brace what the tag says. -/
def StandsAt (tag : Tag) (t : Text) (i : Nat) : Prop :=
  ∃ body rest, Text.At t i ((if tag.escaped then '$' else '%') :: '{' :: (body ++ '}' :: rest)) ∧
    '}' ∉ body ∧ tag.Spelled body

/-- The grammar says the same as the form of what is read. -/
theorem spelled_iff {tag : Tag} {body : Text} (hbrace : '}' ∉ body) :
    tag.Spelled body ↔ tag.WellFormed ∧ tag.body = body := by
  constructor
  · rintro (hbar | ⟨hpath, hbar, hne⟩)
    · exact ⟨⟨hbrace, hbar, fun _ hf => by cases hf⟩, rfl⟩
    · simp only [List.mem_append, List.mem_cons, not_or] at hbrace
      refine ⟨⟨hbrace.1, hpath, fun filter hf => ?_⟩, rfl⟩
      cases hf
      exact ⟨hne, hbrace.2.2, hbar⟩
  · rintro ⟨hwf, rfl⟩
    obtain ⟨escaped, path, filter⟩ := tag
    cases filter with
    | none => exact .plain hwf.path_bar
    | some filter =>
      obtain ⟨hne, -, hbar⟩ := hwf.filter filter rfl
      exact .filtered hwf.path_bar hbar hne

theorem standsAt_iff {tag : Tag} {t : Text} {i : Nat} :
    tag.StandsAt t i ↔ tag.WellFormed ∧ Text.OccursAt tag.text t i := by
  have htext : ∀ rest, tag.text ++ rest =
      (if tag.escaped then '$' else '%') :: '{' :: (tag.body ++ '}' :: rest) := by
    intro rest
    rw [text, mark]
    simp
  constructor
  · rintro ⟨body, rest, hat, hbrace, hspelled⟩
    obtain ⟨hwf, rfl⟩ := (spelled_iff hbrace).mp hspelled
    exact ⟨hwf, rest, htext rest ▸ hat⟩
  · rintro ⟨hwf, rest, hat⟩
    have hbrace := hwf.body_brace
    exact ⟨tag.body, rest, htext rest ▸ hat, hbrace, (spelled_iff hbrace).mpr ⟨hwf, rfl⟩⟩

section Reader

variable {t rest : Text} {i : Nat}

/-- The reader reads a tag exactly where it stands. -/
theorem at?_iff_standsAt (hat : Text.At t i rest) {tag : Tag} :
    (∃ after, at? rest = some (tag, after)) ↔ tag.StandsAt t i := by
  rw [standsAt_iff]
  constructor
  · rintro ⟨after, hread⟩
    obtain ⟨rfl, hwf⟩ := at?_eq_some_iff.mp hread
    exact ⟨hwf, after, hat⟩
  · rintro ⟨hwf, after, hoccurs⟩
    obtain rfl := hat.unique hoccurs
    exact ⟨after, at?_text hwf after⟩

theorem begins_iff_standsAt (hat : Text.At t i rest) :
    Begins rest ↔ ∃ tag : Tag, tag.StandsAt t i := by
  rw [← begins_iff, Option.ne_none_iff_exists']
  constructor
  · rintro ⟨⟨tag, after⟩, hread⟩
    exact ⟨tag, (at?_iff_standsAt hat).mp ⟨after, hread⟩⟩
  · rintro ⟨tag, hstands⟩
    obtain ⟨after, hread⟩ := (at?_iff_standsAt hat).mpr hstands
    exact ⟨_, hread⟩

/-- No tag is found exactly if none stands anywhere. -/
theorem find?_eq_none_iff_standsAt : find? t = none ↔ ∀ (tag : Tag) i, ¬ tag.StandsAt t i := by
  have hnil : ¬ Begins [] := fun h => by
    obtain ⟨c, rest, heq⟩ := h.bracing
    cases heq
  rw [find?_eq_none_iff, Text.nowhere_nil_iff_at hnil]
  constructor
  · intro hno tag i hstands
    obtain ⟨-, rest, hat⟩ := standsAt_iff.mp hstands
    exact hno i _ hat ((begins_iff_standsAt hat).mpr ⟨tag, hstands⟩)
  · intro hno i rest hat hbegins
    obtain ⟨tag, hstands⟩ := (begins_iff_standsAt hat).mp hbegins
    exact hno tag i hstands

end Reader

/-- A text in which no tag stands does not hold the text of one. -/
theorem not_infix_of_free {t : Text} (hfree : ∀ (tag : Tag) i, ¬ tag.StandsAt t i) {tag : Tag}
    (hwf : tag.WellFormed) : ¬ tag.text <:+: t := by
  rintro ⟨before, after, ht⟩
  refine hfree tag (Text.byteSize before) (standsAt_iff.mpr ⟨hwf, after, before, ?_, rfl⟩)
  rw [← ht, List.append_assoc]

/-- The tag stands behind `before`, and no tag stands at an earlier byte of the text. -/
structure FirstBehind (tag : Tag) (before t : Text) : Prop where
  beginning : before <+: t
  standsAt : tag.StandsAt t (Text.byteSize before)
  first : ∀ (other : Tag) i, other.StandsAt t i → Text.byteSize before ≤ i

/-- The tag that is found is the one that stands first. -/
theorem find?_iff_firstBehind {t before : Text} {tag : Tag} :
    (∃ after, find? t = some ⟨before, tag, after⟩) ↔ tag.FirstBehind before t := by
  constructor
  · rintro ⟨after, hfound⟩
    obtain ⟨ht, hwf, hno⟩ := find?_eq_some_iff.mp hfound
    rw [List.append_assoc] at ht
    have hwhole : Text.At t 0 (before ++ (tag.text ++ after)) := ⟨[], ht, rfl⟩
    refine ⟨⟨_, ht.symm⟩, standsAt_iff.mpr ⟨hwf, after, before, ht, rfl⟩, ?_⟩
    intro other i hstands
    obtain ⟨-, rest, hat⟩ := standsAt_iff.mp hstands
    by_contra hlt
    exact (Text.nowhere_iff_at hwhole).mp hno i _ hat (Nat.zero_le i) (by omega)
      ((begins_iff_standsAt hat).mpr ⟨other, hstands⟩)
  · rintro ⟨⟨rest, rfl⟩, hstands, hfirst⟩
    obtain ⟨hwf, after, hat⟩ := standsAt_iff.mp hstands
    obtain rfl := (Text.at_append before rest).unique hat
    have hwhole : Text.At (before ++ (tag.text ++ after)) 0 (before ++ (tag.text ++ after)) :=
      ⟨[], rfl, rfl⟩
    refine ⟨after, find?_eq_some_iff.mpr ⟨(List.append_assoc ..).symm, hwf, ?_⟩⟩
    rw [Text.nowhere_iff_at hwhole]
    intro i rest hat' _ hlt hbegins
    obtain ⟨other, hstands'⟩ := (begins_iff_standsAt hat').mp hbegins
    have hle := hfirst other i hstands'
    omega

end Templating.Tag
