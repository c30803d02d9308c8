import Templating.Store
import Templating.Text.Case
import Templating.Text.Hidden

/-!
# Reports

One-line descriptions of the things a caller handles, for a reader who wants to look inside. A thing
with fields is written as a record, `Name { field: value, … }`; texts stand between quotes, with
escapes for what would not show.
-/

namespace Templating.Report

variable {σ : Type}

/-! ## Parts -/

/-- The hexadecimal digits of a number in lower case. -/
def hexDigits (n : Nat) : Text := Nat.toDigits 16 n

/-- A character as it stands in a quoted text. -/
def char (c : Char) : Text :=
  if c = '"' then ['\\', '"']
  else if c = '\\' then ['\\', '\\']
  else if c = '\n' then ['\\', 'n']
  else if c = '\r' then ['\\', 'r']
  else if c = '\t' then ['\\', 't']
  else if c.toNat = 0 then ['\\', '0']
  else if c.toNat < 0x20 ∨ Text.inRanges Text.hiddenRanges c.toNat then
    '\\' :: 'u' :: '{' :: (hexDigits c.toNat ++ ['}'])
  else [c]

/-- A text between quotes. -/
def quoted (t : Text) : Text := '"' :: (t.flatMap char ++ ['"'])

/-- A truth value. -/
def bool (b : Bool) : Text := (if b then "true" else "false").toList

/-- Texts with commas between them. -/
def commas : List Text → Text
  | [] => []
  | [t] => t
  | t :: rest => t ++ ',' :: ' ' :: commas rest

/-- A list. -/
def list (items : List Text) : Text := '[' :: (commas items ++ [']'])

/-- A named thing that contains one other. -/
def wrapped (name : String) (content : Text) : Text := name.toList ++ '(' :: (content ++ [')'])

/-- A record with the given fields. -/
def record (name : String) (fields : List (String × Text)) : Text :=
  name.toList ++ ' ' :: '{' :: ' ' ::
    (commas (fields.map fun (field, value) => field.toList ++ ':' :: ' ' :: value) ++ [' ', '}'])

/-! ## Values -/

mutual

/-- A value with the name of its shape. -/
def value : Value → Text
  | .null => "Null".toList
  | .bool b => wrapped "Bool" (bool b)
  | .number n => wrapped "Number" (Value.jsonNumber n)
  | .string t => wrapped "String" (quoted t)
  | .array items => "Array ".toList ++ list (values items)
  | .object members => "Object ".toList ++ '{' :: (commas (memberTexts members) ++ ['}'])

/-- The items of an array. -/
def values : List Value → List Text
  | [] => []
  | item :: rest => value item :: values rest

/-- The members of an object. -/
def memberTexts : List (Text × Value) → List Text
  | [] => []
  | (key, item) :: rest => (quoted key ++ ':' :: ' ' :: value item) :: memberTexts rest

end

/-! ## Options and templates -/

/-- The options of a template. -/
def config (c : Config) : Text :=
  record "TemplateConfig"
    [("strict_paths", bool c.strictPaths), ("undefined_text", quoted c.undefinedText),
      ("max_passes", Text.ofNat c.maxPasses)]

/-- A template. -/
def template (t : Template) : Text :=
  record "Template" [("content", quoted t.content), ("config", config t.config)]

/-! ## Registries -/

/-- A registry, by the names of its entries and the number of its next block. -/
def registry (s : Store σ) (r : RegistryId) : Text :=
  record "PartialRegistry"
    [("entries", list ((s.entries r).names.map quoted)),
      ("next_block", Text.ofNat (s.nextNumber r))]

/-- A block taken out of a template. -/
def issued (i : Issued σ) : Text :=
  record "DeferredBlock"
    [("kind", i.block.kind.name), ("placeholder", quoted i.block.placeholder),
      ("built", bool i.node.isSome)]

/-- A partial. What is in it shows only for values and for blocks of templates. -/
def entry (s : Store σ) : Partial σ → Text
  | .value v => wrapped "Value" (value v)
  | .deferred b =>
    match s.issued? b with
    | some i => wrapped "Deferred" (issued i)
    | none => Partial.kind (.deferred b : Partial σ)
  | other => other.kind

/-! ## Nodes -/

/-- The character of an indent, by name. -/
def unit : IndentUnit → Text
  | .space => "Space".toList
  | .tab => "Tab".toList

/-- A text that may be missing. -/
def optional : Option Text → Text
  | none => "None".toList
  | some t => wrapped "Some" (quoted t)

/-- Nodes that are rendered one after the other. -/
def composite (children : List (Node σ)) : Text :=
  record "Composite" [("children", Text.ofNat children.length)]

/-- A node. Closures have no description; a repeating node is preceded by its path. -/
def node (s : Store σ) : Node σ → Text
  | .literal t => record "Literal" [("content", quoted t)]
  | .onlyIf .. => record "Conditional" [("has_else", bool false)]
  | .ifElse .. => record "Conditional" [("has_else", bool true)]
  | .repeatingWith path itemName transform _ =>
    path ++ ' ' :: record "Repeating"
      [("path", quoted path), ("alias", optional (itemName.filter (· ≠ []))),
        ("has_transform", bool transform.isSome)]
  | .cached cell validator _ =>
    record "Cached"
      [("is_cached", bool (s.snapshot? cell).isSome), ("has_validator", bool validator.isSome)]
  | .indented u count _ => record "Indented" [("unit", unit u), ("count", Text.ofNat count)]
  | .template t => template t
  | .sequence .. | .callback _ => []

end Templating.Report
