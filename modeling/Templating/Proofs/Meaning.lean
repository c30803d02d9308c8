import Templating.Proofs.OnePass
import Templating.Proofs.Preservation

/-!
# What documents mean

The meaning of a document is said by recursion on its tree, without texts to be searched, numbers or
a store. A level is walked once from left to right: literals are copied, a tag is evaluated where it
first occurs and its text is used again where it recurs, and a block is what its bodies mean, under
the indent that it stands behind.

* `Rendition` — the texts put in place of tags and blocks, and the outcome;
* `Document.walk`, `Document.meaning` — the meaning of a document;
* `Document.nesting`, `Document.Fits` — how deep a document goes, and how much its levels hold.

That compiled documents render to their meaning is shown in `Templating.Proofs.Correctness`.
-/

namespace Templating

-- ---------------------------------------------------------------------------
-- Renditions
-- ---------------------------------------------------------------------------

/-- What a rendering comes to: the texts that are put in place of tags and blocks, and the
outcome. -/
structure Rendition where
  texts : List Text
  outcome : Except Failure Text

namespace Rendition

def text (t : Text) : Rendition := ⟨[], .ok t⟩

def failed (failure : Failure) : Rendition := ⟨[], .error failure⟩

/-- The rendition with one text more, put in before all others. -/
def after (x : Rendition) (first : Text) : Rendition := { x with texts := first :: x.texts }

def map (f : Text → Text) (x : Rendition) : Rendition := { x with outcome := x.outcome.map f }

/-- Goes on with what came out; a failure ends it. -/
def andThen (x : Rendition) (f : Text → Rendition) : Rendition :=
  match x.outcome with
  | .error failure => ⟨x.texts, .error failure⟩
  | .ok t => ⟨x.texts ++ (f t).texts, (f t).outcome⟩

/-- Puts what came out behind what is written, under the indent that this ends with, and goes
on. -/
def placed (x : Rendition) (written : Text) (next : Text → Rendition) : Rendition :=
  x.andThen fun output =>
    let text := Text.indentContinuation (Text.trailingIndent written) output
    (next (written ++ text)).after text

/-- The renditions of items, one after the other. -/
def items (body : Value → Rendition) (scope : Value → Nat → Value) :
    (index : Nat) → List Value → Rendition
  | _, [] => text []
  | index, item :: rest =>
    (body (scope item index)).andThen fun output =>
      (items body scope (index + 1) rest).map (output ++ ·)

/-- The renditions of the items of the array that a path leads to. -/
def repeated (body : Value → Rendition) (path : Text) (itemName : Option Text) (params : Value) :
    Rendition :=
  match Value.resolve? path params with
  | some (.array array) =>
    items body (fun item index =>
      Run.loopParams params (Run.namedItem itemName item) index array.length) 0 array
  | _ => failed (.error (.notIterable path))

end Rendition

-- ---------------------------------------------------------------------------
-- Meanings
-- ---------------------------------------------------------------------------

namespace Meanings

variable (meanings : Meanings)

/-- The value that a path leads to. -/
def lookup (params : Value) (path : Text) : Except Failure (Option Value) :=
  match path with
  | '@' :: reference =>
    let (name, rest) := Run.splitReference reference
    match meanings name with
    | none => .ok none
    | some f => (f params).map fun value =>
      match rest with
      | some rest => value.bind (Value.resolve? rest)
      | none => value
  | _ => .ok (Value.resolve? path params)

/-- What a tag becomes behind an indent. -/
def tagText (config : Config) (params : Value) (tag : Tag) (indent : Text) : Except Failure Text :=
  match meanings.lookup params tag.path with
  | .error failure => .error failure
  | .ok value => Run.tagText config tag indent value

/-- One of two renditions, by the value of the placeholder. -/
def choose (h : Heading) (params : Value) (onTrue onFalse : Rendition) : Rendition :=
  match meanings.lookup params h.placeholder with
  | .error failure => .failed failure
  | .ok value => if Value.isFalsyOrAbsent value == h.negated then onTrue else onFalse

/-- What a block with one body comes to. -/
def blockOf (h : Heading) (body : Value → Rendition) (params : Value) : Rendition :=
  match h.kind with
  | .conditional => meanings.choose h params (body params) (.text [])
  | .repeating => .repeated body h.name h.param params
  | .tabIndented =>
    (body params).map
      (Text.indentLines (IndentUnit.tab.repeated (h.param.elim 0 Block.indentCount)))
  | .spaceIndented =>
    (body params).map
      (Text.indentLines (IndentUnit.space.repeated (h.param.elim 0 Block.indentCount)))
  -- no document has a cached block
  | .cached => body params

end Meanings

namespace Document

/-- Walks over a level. `known` holds the texts of the tags met so far and `written` the output up
to here. -/
def walk (meanings : Meanings) (config : Config) :
    Document → (params : Value) → (known : List (Tag × Text)) → (written : Text) → Rendition
  | nil, _, _, written => .text written
  | literal text rest, params, known, written =>
    rest.walk meanings config params known (written ++ text)
  | inline tag rest, params, known, written =>
    match known.lookup tag with
    | some text => rest.walk meanings config params known (written ++ text)
    | none =>
      match meanings.tagText config params tag (Text.trailingIndent written) with
      | .error failure => .failed failure
      | .ok text =>
        (rest.walk meanings config params ((tag, text) :: known) (written ++ text)).after text
  | block h body rest, params, known, written =>
    (meanings.blockOf h (fun params => body.walk meanings config params [] []) params).placed
      written (rest.walk meanings config params known)
  | ifElse h onTrue onFalse rest, params, known, written =>
    (meanings.choose h params (onTrue.walk meanings config params [] [])
      (onFalse.walk meanings config params [] [])).placed
      written (rest.walk meanings config params known)

/-- The meaning of a document, with options and parameters. -/
def meaning (doc : Document) (meanings : Meanings) (config : Config) (params : Value) : Rendition :=
  doc.walk meanings config params [] []

-- ---------------------------------------------------------------------------
-- Measures
-- ---------------------------------------------------------------------------

/-- The bodies of all blocks, at any depth. -/
def bodies : Document → List Document
  | nil => []
  | literal _ rest | inline _ rest => rest.bodies
  | block _ body rest => body :: (body.bodies ++ rest.bodies)
  | ifElse _ onTrue onFalse rest =>
    onTrue :: onFalse :: (onTrue.bodies ++ onFalse.bodies ++ rest.bodies)

/-- How deep blocks are nested. -/
def nesting : Document → Nat
  | nil => 0
  | literal _ rest | inline _ rest => rest.nesting
  | block _ body rest => max (body.nesting + 1) rest.nesting
  | ifElse _ onTrue onFalse rest =>
    max (max (onTrue.nesting + 1) (onFalse.nesting + 1)) rest.nesting

/-- The inline tags of the uppermost level. -/
def tags : Document → List Tag
  | nil => []
  | inline tag rest => tag :: rest.tags
  | literal _ rest | block _ _ rest | ifElse _ _ _ rest => rest.tags

/-- The number of distinct inline tags and of blocks of the uppermost level. -/
def levelSize (doc : Document) : Nat := doc.tags.eraseDups.length + doc.blocks.length

/-- No level is larger than the limit. -/
def Fits (limit : Nat) (doc : Document) : Prop :=
  ∀ level ∈ doc :: doc.bodies, level.levelSize ≤ limit

instance (limit : Nat) (doc : Document) : Decidable (doc.Fits limit) :=
  inferInstanceAs (Decidable (∀ level ∈ doc :: doc.bodies, _))

end Document

end Templating
