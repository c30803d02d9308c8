import Templating.Text

/-!
# Inline tags

An inline tag is `${path}` or `%{path}`, with a filter behind a bar if it has one. It is closed by
the first brace after its opening, and the text between the two decides whether it is a tag: a
path without a bar, or a path, one bar and a filter that is not empty. Anything else is literal
text, an opening in it included.

* `Tag.at?` reads the tag that a text begins with;
* `Tag.find?` finds the leftmost tag;
* `Tag.splitOpen` finds where a text without tags could still begin one;
* `Tag.text` writes a tag as it stands in the text it was read from.
-/

namespace Templating

/-- An inline tag. The value of an escaped one is made safe for markup. -/
structure Tag where
  escaped : Bool
  path : Text
  filter : Option Text
  deriving DecidableEq

namespace Tag

/-- The character before the brace: `$` escapes, `%` does not. -/
def mark (tag : Tag) : Char := if tag.escaped then '$' else '%'

/-- What stands between the braces of a tag. -/
def body (tag : Tag) : Text :=
  match tag.filter with
  | none => tag.path
  | some filter => tag.path ++ '|' :: filter

/-- The tag as it is written. -/
def text (tag : Tag) : Text := tag.mark :: '{' :: (tag.body ++ ['}'])

/-- The tag with the given text between its braces. -/
def ofBody? (escaped : Bool) (body : Text) : Option Tag :=
  match Text.cut? '|' body with
  | none => some ⟨escaped, body, none⟩
  | some (path, filter) =>
    if filter = [] ∨ '|' ∈ filter then none else some ⟨escaped, path, some filter⟩

/-- Whether a character opens a tag that is escaped or one that is not. -/
def ofMark? (c : Char) : Option Bool :=
  if c = '$' then some true else if c = '%' then some false else none

/-- The tag that a text begins with, and what follows it. -/
def at? : Text → Option (Tag × Text)
  | mark :: '{' :: rest => do
    let escaped ← ofMark? mark
    let (body, after) ← Text.cut? '}' rest
    let tag ← ofBody? escaped body
    return (tag, after)
  | _ => none

/-! ## Search -/

/-- The leftmost tag of a text, with what stands before and after it. -/
structure Found where
  before : Text
  tag : Tag
  after : Text

/-- The leftmost tag of a text. -/
def find? : Text → Option Found
  | [] => none
  | c :: rest =>
    match at? (c :: rest) with
    | some (tag, after) => some ⟨[], tag, after⟩
    | none => (find? rest).map fun found => { found with before := c :: found.before }

/-! ## Open ends -/

/-- Whether a tag that begins with the text could still be completed by what follows the text or
takes the place of its end: it is a mark and a brace that nothing in the text closes, or a mark
that stands alone or before another open end. -/
def isOpen : Text → Bool
  | [] => false
  | [mark] => (ofMark? mark).isSome
  | mark :: '{' :: rest => (ofMark? mark).isSome && !rest.contains '}'
  | mark :: rest => (ofMark? mark).isSome && isOpen rest

/-- A text cut where the first open end begins. In a text that has no tag, none begins before the
cut, whatever stands in place of the part behind it. -/
def splitOpen : Text → Text × Text
  | [] => ([], [])
  | text@(c :: rest) =>
    if isOpen text then ([], text)
    else
      let (closed, opened) := splitOpen rest
      (c :: closed, opened)

end Tag

end Templating
