import Templating.Tag

/-!
# Drafts

A draft is a text whose tags are being replaced. Each pass takes the first tag that is left and puts
a value in place of every occurrence of it; the value is searched for tags again, and so is a mark
or an opening before it that the value may complete. What stands before that is settled and never
looked at again.

* `Draft.place?` is the first tag of a draft and the indent it stands behind;
* `Draft.Place.fill` is the draft after the pass.

No occurrence of the first tag begins before it, since an occurrence of a tag is a tag; so it is
enough to replace the occurrences behind it. Values that lead to each other bring the same few tags
again and again, so a draft remembers tags that it has looked for in vain: none of them begins
behind the characters that are new since then, and only those are looked through again.
-/

namespace Templating

/-- A text in the course of its passes. -/
structure Draft where
  /-- What no tag begins in, whatever follows it; from its end. -/
  settled : Text
  /-- What is still to be searched. -/
  rest : Text
  /-- How many characters at the beginning of `rest` are new. -/
  fresh : Nat
  /-- Tags that do not begin anywhere in `rest` behind the new characters. -/
  absent : List Text

namespace Draft

/-- A text before the first pass. -/
def ofText (t : Text) : Draft := ⟨[], t, 0, []⟩

/-- The text of a draft. -/
def text (d : Draft) : Text := d.settled.reverse ++ d.rest

/-- How many absent tags a draft remembers. -/
def memory : Nat := 8

/-- The place of the first tag of a draft. -/
structure Place where
  /-- What no tag begins in, whatever the tag becomes; from its end. -/
  settled : Text
  /-- What stands between that and the tag. -/
  opened : Text
  /-- The run of spaces and tabs directly before the tag. -/
  indent : Text
  tag : Tag
  after : Text
  /-- How many characters at the beginning of `after` are new. -/
  fresh : Nat
  /-- Tags that do not begin anywhere in `after` behind the new characters. -/
  absent : List Text

/-- The place of the first tag. -/
def place? (d : Draft) : Option Place :=
  (Tag.find? d.rest).map fun found =>
    let (closed, opened) := Tag.splitOpen found.before
    { settled := closed.reverse ++ d.settled
      opened := opened
      indent := Text.indentOfReversed (found.before.reverse ++ d.settled)
      tag := found.tag
      after := found.after
      fresh := d.fresh - (found.before.length + found.tag.text.length)
      absent := d.absent }

namespace Place

/-- Whether a tag occurs behind the place. -/
def recurs (place : Place) (tag : Text) : Bool :=
  if place.absent.contains tag then Text.containsWithin tag place.fresh place.after
  else Text.containsPattern tag place.after

/-- The draft with a value in place of the first tag and of every further occurrence of it. -/
def fill (place : Place) (value : Text) : Draft :=
  let tag := place.tag.text
  let filled := place.opened ++ value
  if place.recurs tag then
    ⟨place.settled, filled ++ Text.replaceAll tag value place.after, 0, []⟩
  else
    let others := place.absent.filter fun other => other != tag && !place.recurs other
    ⟨place.settled, filled ++ place.after, filled.length, (tag :: others).take memory⟩

end Place

end Draft

end Templating
