import Templating.Error

/-!
# Blocks in a text

A block is a region of a text between an opening tag and a closing tag:

    mark "{" ["!"] name [":" param] "}"  content  mark "{/" name "}"

The opening is closed by the first brace after it, and the closing is the first text of its form
behind the opening, so the content is the shortest possible. An opening that has no closing behind
it opens nothing.

* `Opening.at?` reads the opening tag that a text begins with;
* `Block.at?` reads the whole block;
* `Block.find?` finds the leftmost block;
* `Extraction.ofText` takes every block out of a text.
-/

namespace Templating

/-- The kinds of blocks. -/
inductive BlockKind where
  | repeating
  | conditional
  | tabIndented
  | spaceIndented
  | cached
  deriving DecidableEq

namespace BlockKind

/-- The character that opens and closes blocks of a kind. -/
def mark : BlockKind → Char
  | repeating => '#'
  | conditional => '?'
  | tabIndented => '>'
  | spaceIndented => '_'
  | cached => '='

/-- The kind that a character opens. -/
def ofMark? (c : Char) : Option BlockKind :=
  [repeating, conditional, tabIndented, spaceIndented, cached].find? fun kind => kind.mark = c

/-- The name of a kind in reports. -/
def name : BlockKind → Text
  | repeating => "Repeating".toList
  | conditional => "Conditional".toList
  | tabIndented => "TabIndented".toList
  | spaceIndented => "SpaceIndented".toList
  | cached => "Cached".toList

end BlockKind

/-- What an opening tag says. The placeholder is all of it but the negation: the name, and the
parameter with its colon. -/
structure Opening where
  kind : BlockKind
  negated : Bool
  placeholder : Text
  name : Text
  deriving DecidableEq

/-- A block taken out of a text. -/
structure Block where
  kind : BlockKind
  /-- The opening carries the negation mark. -/
  negated : Bool
  /-- The name and, with its colon, the parameter. -/
  placeholder : Text
  name : Text
  /-- What stands between the first colon of the placeholder and the next. -/
  param : Option Text
  content : Text
  deriving DecidableEq

namespace Opening

/-- The opening with the given text between its braces. The name ends at the first colon, and
something must follow that colon. -/
def ofBody? (kind : BlockKind) (body : Text) : Option Opening :=
  let (negated, placeholder) := match body with
    | '!' :: rest => (true, rest)
    | _ => (false, body)
  match Text.cut? ':' placeholder with
  | none => some ⟨kind, negated, placeholder, placeholder⟩
  | some (name, param) => if param = [] then none else some ⟨kind, negated, placeholder, name⟩

/-- The opening that a text begins with, and what follows it. -/
def at? : Text → Option (Opening × Text)
  | mark :: '{' :: rest => do
    let kind ← BlockKind.ofMark? mark
    let (body, after) ← Text.cut? '}' rest
    let opening ← ofBody? kind body
    return (opening, after)
  | _ => none

/-- The opening tag as it is written. -/
def text (o : Opening) : Text :=
  o.kind.mark :: '{' :: ((if o.negated then ['!'] else []) ++ o.placeholder ++ ['}'])

/-- The closing tag that belongs to an opening. -/
def closing (o : Opening) : Text := o.kind.mark :: '{' :: '/' :: (o.name ++ ['}'])

/-- The text between the first colon of the placeholder and the next. -/
def param (o : Opening) : Option Text :=
  (Text.cut? ':' o.placeholder).map fun (_, rest) =>
    match Text.cut? ':' rest with
    | some (param, _) => param
    | none => rest

/-- The block that an opening begins, given its content. -/
def block (o : Opening) (content : Text) : Block :=
  ⟨o.kind, o.negated, o.placeholder, o.name, o.param, content⟩

end Opening

namespace Block

/-- The opening that a block has. -/
def opening (b : Block) : Opening := ⟨b.kind, b.negated, b.placeholder, b.name⟩

/-- The block as it stands in a text. -/
def text (b : Block) : Text := b.opening.text ++ b.content ++ b.opening.closing

/-- The block that a text begins with, and what follows it. -/
def at? (t : Text) : Option (Block × Text) := do
  let (opening, rest) ← Opening.at? t
  let (content, after) ← Text.cutAt? opening.closing rest
  return (opening.block content, after)

/-- The leftmost block of a text, with what stands before and after it. -/
structure Found where
  before : Text
  block : Block
  after : Text

/-- The leftmost block of a text. -/
def find? : Text → Option Found
  | [] => none
  | c :: rest =>
    match at? (c :: rest) with
    | some (block, after) => some ⟨[], block, after⟩
    | none => (find? rest).map fun found => { found with before := c :: found.before }

/-- The bytes of a text at which a found block begins and ends. -/
def Found.span (found : Found) (whole : Text) : Nat × Nat :=
  (Text.byteSize found.before, Text.byteSize whole - Text.byteSize found.after)

end Block

/-! ## Extraction

Extraction takes every block out of a text and leaves a raw tag that refers to it in its place:
the block numbered `n` becomes the tag of the partial `block_n`. The search starts over from the
beginning after each replacement, and goes on until no block is left.

A block has two closing braces of its own and its reference one, so the closing braces of a text
are a bound on the number of blocks that can be taken out of it; `Extraction.ofText` uses this
bound.
-/

/-- The name under which the block with a number is registered. -/
def Block.reference (number : Nat) : Text := "block_".toList ++ Text.ofNat number

/-- The tag that takes the place of the block with a number. -/
def Block.referenceTag (number : Nat) : Text :=
  '%' :: '{' :: '@' :: (Block.reference number ++ ['}'])

/-- A text without its blocks, and the blocks in the order in which they were taken out. -/
structure Extraction where
  residual : Text
  blocks : List Block

namespace Extraction

/-- Takes out at most `fuel` blocks and numbers them from `number` on. -/
def run : (fuel number : Nat) → Text → Extraction
  | 0, _, t => ⟨t, []⟩
  | fuel + 1, number, t =>
    match Block.find? t with
    | none => ⟨t, []⟩
    | some found =>
      let rest := run fuel (number + 1)
        (found.before ++ Block.referenceTag number ++ found.after)
      { rest with blocks := found.block :: rest.blocks }

/-- Takes out every block of a text and numbers them from `number` on. -/
def ofText (number : Nat) (t : Text) : Extraction := run (t.count '}') number t

end Extraction

end Templating
