import Templating.Draft
import Templating.Proofs.Tag

/-!
# Drafts stand for their texts

A draft searches less than its text: not the settled part, and for a tag that it remembers as absent
only the new characters. This module shows that it finds the same and makes the same of it.

* `Draft.Sound` — the settled part is inert, and what is remembered as absent is absent;
* `Draft.place?_eq_none_iff`, `Draft.Place.find?_text` — the place of a draft is the leftmost tag
  of its text;
* `Draft.Place.fill_text` — filling it replaces every occurrence of the tag in the text;
* `Draft.Place.sound_fill` — and leaves a sound draft.
-/

namespace Templating.Draft

/-- What a draft takes for granted about its text. -/
structure Sound (d : Draft) : Prop where
  settled : Tag.Inert d.settled.reverse
  absent : ∀ tag ∈ d.absent, ¬ tag <:+: d.rest.drop d.fresh

theorem sound_ofText (t : Text) : (ofText t).Sound := ⟨Tag.inert_nil, by simp [ofText]⟩

@[simp] theorem text_ofText (t : Text) : (ofText t).text = t := rfl

namespace Place

/-- What stands before the tag. -/
def before (place : Place) : Text := place.settled.reverse ++ place.opened

/-- The text of the draft that the place is in. -/
def text (place : Place) : Text := place.before ++ (place.tag.text ++ place.after)

/-- What a place takes for granted. -/
structure Sound (place : Place) : Prop where
  wellFormed : place.tag.WellFormed
  settled : Tag.Inert place.settled.reverse
  opened : Text.Nowhere Tag.Begins place.opened (place.tag.text ++ place.after)
  absent : ∀ tag ∈ place.absent, ¬ tag <:+: place.after.drop place.fresh

variable {place : Place}

theorem Sound.before (h : place.Sound) :
    Text.Nowhere Tag.Begins place.before (place.tag.text ++ place.after) :=
  Text.nowhere_append.mpr ⟨h.settled _, h.opened⟩

theorem find?_text (h : place.Sound) :
    Tag.find? place.text = some ⟨place.before, place.tag, place.after⟩ :=
  Tag.find?_eq_some_iff.mpr ⟨(List.append_assoc ..).symm, h.wellFormed, h.before⟩

/-- Looking only at the new characters for a tag that is remembered as absent is enough. -/
theorem recurs_iff (h : place.Sound) {tag : Text} :
    place.recurs tag = true ↔ tag <:+: place.after := by
  rw [recurs]
  by_cases hmem : place.absent.contains tag = true
  · rw [if_pos hmem]
    exact Text.containsWithin_iff (h.absent tag (by simpa using hmem))
  · rw [if_neg hmem, Text.containsPattern_iff]

/-- Replacement in the text: no occurrence of the tag begins before the place. -/
theorem replaceAll_text (h : place.Sound) (value : Text) :
    Text.replaceAll place.tag.text value place.text =
      place.before ++ (value ++ Text.replaceAll place.tag.text value place.after) := by
  have hno : Text.Nowhere (place.tag.text <+: ·) place.before (place.tag.text ++ place.after) :=
    h.before.mono fun _ hprefix => ⟨place.tag, h.wellFormed, hprefix⟩
  rw [text, Text.replaceAll_append_of_nowhere value hno,
    Text.replaceAll_prefix place.tag.text_ne_nil]

/-- Filling a place replaces every occurrence of its tag in the text. -/
theorem fill_text (h : place.Sound) (value : Text) :
    (place.fill value).text = Text.replaceAll place.tag.text value place.text := by
  rw [replaceAll_text h, fill]
  by_cases hrecurs : place.recurs place.tag.text = true
  · rw [if_pos hrecurs]
    simp [Draft.text, before]
  · rw [if_neg hrecurs]
    have hafter := Text.replaceAll_of_not_infix place.tag.text_ne_nil value
      fun hoccurs => hrecurs ((recurs_iff h).mpr hoccurs)
    rw [hafter]
    simp [Draft.text, before]

theorem sound_fill (h : place.Sound) (value : Text) : (place.fill value).Sound := by
  rw [fill]
  by_cases hrecurs : place.recurs place.tag.text = true
  · rw [if_pos hrecurs]
    exact ⟨h.settled, by simp⟩
  · rw [if_neg hrecurs]
    refine ⟨h.settled, fun tag htag => ?_⟩
    rw [List.drop_left]
    rcases List.mem_cons.mp (List.mem_of_mem_take htag) with rfl | hother
    · exact fun hoccurs => hrecurs ((recurs_iff h).mpr hoccurs)
    · obtain ⟨-, hkept⟩ := List.mem_filter.mp hother
      rw [Bool.and_eq_true, Bool.not_eq_true'] at hkept
      intro hoccurs
      rw [(recurs_iff h).mpr hoccurs] at hkept
      cases hkept.2

end Place

/-- A draft has no place exactly if its text has no tag. -/
theorem place?_eq_none_iff {d : Draft} (h : d.Sound) :
    d.place? = none ↔ Tag.find? d.text = none := by
  rw [place?, Option.map_eq_none_iff, text, Tag.find?_append_of_nowhere (h.settled d.rest),
    Option.map_eq_none_iff]

/-- The place of a sound draft is sound, in the same text, and has the indent before the tag. -/
theorem place?_eq_some {d : Draft} (h : d.Sound) {place : Place} (hplace : d.place? = some place) :
    place.Sound ∧ place.text = d.text ∧ place.indent = Text.trailingIndent place.before := by
  rw [place?, Option.map_eq_some_iff] at hplace
  obtain ⟨⟨before, tag, after⟩, hfound, rfl⟩ := hplace
  obtain ⟨hrest, hwf, hno⟩ := Tag.find?_eq_some_iff.mp hfound
  have hsplit := Tag.splitOpen_append before
  set closed := (Tag.splitOpen before).1 with hclosed
  set opened := (Tag.splitOpen before).2
  have hinert : Tag.Inert closed := by
    have hnothing : Text.Nowhere Tag.Begins before ([] ++ (tag.text ++ after)) := hno
    rw [hclosed]
    exact Tag.inert_splitOpen (hnothing.of_append fun _ more hb => hb.append more)
  have hbefore : (closed.reverse ++ d.settled).reverse ++ opened = d.settled.reverse ++ before := by
    rw [List.reverse_append, List.reverse_reverse, List.append_assoc, hsplit]
  refine ⟨⟨hwf, ?_, ?_, ?_⟩, ?_, ?_⟩
  · rw [List.reverse_append, List.reverse_reverse]
    exact h.settled.append hinert
  · rw [← hsplit] at hno
    exact (Text.nowhere_append.mp hno).2
  · -- what is not new behind the place was not new behind the draft's new characters
    intro other hother hoccurs
    refine h.absent other hother (hoccurs.trans ?_)
    have hafter : after = d.rest.drop (before.length + tag.text.length) := by
      rw [hrest, ← List.length_append, List.drop_left]
    rw [hafter, List.drop_drop, show before.length + tag.text.length +
      (d.fresh - (before.length + tag.text.length)) = d.fresh +
        (before.length + tag.text.length - d.fresh) by omega, ← List.drop_drop]
    exact (List.drop_suffix ..).isInfix
  · show ((closed.reverse ++ d.settled).reverse ++ opened) ++ (tag.text ++ after) = d.text
    rw [hbefore, Draft.text, hrest, List.append_assoc, List.append_assoc]
  · show Text.indentOfReversed _ =
      Text.trailingIndent ((closed.reverse ++ d.settled).reverse ++ opened)
    rw [hbefore, Text.trailingIndent, List.reverse_append, List.reverse_reverse]

end Templating.Draft
