import Templating.Block
import Templating.Text.Escape
import Templating.Value.Coercion

/-!
# Nodes and partials

A *node* is anything that renders to a text; a *partial* is an entry of a registry, which a tag
refers to by its name. Both may hold closures of the caller. A closure acts on a state of the
caller, of a type `σ` that the library knows nothing about; one that neither reads nor changes it
is an ordinary function.

Nodes are immutable trees. What changes in the course of rendering is kept in the store and only
addressed from here: the output of a cached node by its cell, a registry by its number, and the
node of a block that was taken out of a template by the block's number in its registry.
-/

namespace Templating

/-! ## Addresses -/

/-- The number of a registry in the store. -/
abbrev RegistryId := Nat

/-- The number of a cell in the store that keeps the output of a cached node. -/
abbrev CellId := Nat

/-- A block that was taken out of a template: the registry it is registered in and the number it
was issued under. -/
structure BlockId where
  registry : RegistryId
  number : Nat
  deriving DecidableEq

/-- A thing that several owners hold; the identity tells it from an equal one. -/
structure Shared (α : Type) where
  identity : Nat
  value : α

/-! ## Options

A configuration travels with a template and with every block taken out of it. It decides what an
absent value becomes and how many passes a text may need.
-/

/-- Rendering options. -/
structure Config where
  /-- A path that leads nowhere is an error. -/
  strictPaths : Bool
  /-- What stands for absent and null values. -/
  undefinedText : Text
  /-- How many tags may be replaced in one rendering of a text. -/
  maxPasses : Nat
  deriving DecidableEq, Inhabited

namespace Config

/-- Absent values vanish; ten thousand passes. -/
def default : Config := ⟨false, [], 10000⟩

/-- The default, with unresolved paths as errors. -/
def strict : Config := { default with strictPaths := true }

/-- What a value becomes in a text. A string is escaped where the tag asks for it, and its lines
follow the indent that the tag stands behind; the text of anything else goes in as it is. -/
def textOf (config : Config) (escaped : Bool) (indent : Text) : Option Value → Text
  | none | some .null => config.undefinedText
  | some (.string t) => Text.indentContinuation indent (if escaped then Text.escape t else t)
  | some value => value.toText

end Config

/-! ## Templates -/

/-- A compiled template: the text that is left without its blocks, the registry that its tags refer
to, and its options. A template made by a caller keeps its registry open; one made from the content
of a block does not. -/
structure Template where
  content : Text
  registry : RegistryId
  ownsRegistry : Bool
  config : Config
  deriving DecidableEq, Inhabited

/-! ## Nodes -/

/-- An action on the state of the caller. -/
abbrev Action (σ α : Type) := σ → α × σ

/-- What decides whether, or which, node renders. -/
inductive Condition (σ : Type) where
  /-- A closure, which may fail. -/
  | closure (holds : Value → Action σ (Except Error Bool))
  /-- Holds when the value of a path is not falsy; with `negated`, when it is. -/
  | path (registry : RegistryId) (path : Text) (negated : Bool)

/-- What decides, given the current and the previous parameters, whether a cached node may give its
stored output. -/
inductive Validator (σ : Type) where
  | closure (accepts : Value → Value → Action σ Bool)
  /-- Goes by what a path leads to in the registry or in the current parameters. -/
  | path (registry : RegistryId) (path : Text)

/-- The character that an indent is made of. -/
inductive IndentUnit where
  | space
  | tab
  deriving DecidableEq

/-- The indent of `count` characters. -/
def IndentUnit.repeated (unit : IndentUnit) (count : Nat) : Text :=
  List.replicate count (match unit with | .space => ' ' | .tab => '\t')

/-- Something that renders to a text. -/
inductive Node (σ : Type) where
  /-- A fixed text. -/
  | literal (text : Text)
  /-- Two nodes one after the other. -/
  | sequence (first second : Node σ)
  /-- A node that renders only if a condition holds. -/
  | onlyIf (test : Condition σ) (body : Node σ)
  /-- One of two nodes. -/
  | ifElse (test : Condition σ) (onTrue onFalse : Node σ)
  /-- A node rendered once for each item of an array. The transform is given an item and the outer
  parameters, each time just before the item is rendered. -/
  | repeatingWith (path : Text) (itemName : Option Text)
      (transform : Option (Value → Value → Action σ Value)) (body : Node σ)
  /-- A node whose output is kept between renderings. -/
  | cached (cell : CellId) (validator : Option (Validator σ)) (body : Node σ)
  /-- A node whose lines are indented. -/
  | indented (unit : IndentUnit) (count : Nat) (body : Node σ)
  /-- A text made by a closure. -/
  | callback (call : Value → Action σ Text)
  /-- A compiled template. -/
  | template (template : Template)

namespace Node

variable {σ : Type}

/-- The node that renders to nothing. -/
def empty : Node σ := literal []

instance : Inhabited (Node σ) := ⟨empty⟩

/-- Nodes one after the other. -/
def concat (nodes : List (Node σ)) : Node σ := nodes.foldr sequence empty

/-- A node rendered once for each item of an array, with an ordinary function as its transform. -/
def repeating (path : Text) (itemName : Option Text) (transform : Option (Value → Value → Value))
    (body : Node σ) : Node σ :=
  repeatingWith path itemName
    (transform.map fun transform item params caller => (transform item params, caller)) body

end Node

/-! ## Partials -/

/-- What a partial keeps from being released: registries, and the blocks of templates. -/
structure Holdings where
  registries : List RegistryId
  blocks : List BlockId

/-- An entry of a registry. -/
inductive Partial (σ : Type) where
  /-- A value, substituted like a parameter. -/
  | value (value : Value)
  /-- A closure of the parameters. `call` is what it returns, which is resolved in its turn, and
  `after` the state of the caller that it leaves; `holdings` is what it keeps. -/
  | function (call : Value → σ → Partial σ) (after : Value → σ → σ) (holdings : Holdings)
  /-- A closure that decides whether a cached node may give its stored output. -/
  | validator (accepts : Value → Value → Action σ Bool)
  /-- A node, rendered with the current parameters. -/
  | block (node : Shared (Node σ))
  /-- A block that was taken out of a template; its node is made when it is first used. -/
  | deferred (block : BlockId)

instance {σ : Type} : Inhabited (Partial σ) := ⟨.value .null⟩

/-- The kind of a partial in reports. -/
def Partial.kind {σ : Type} : Partial σ → Text
  | value _ => "value".toList
  | function .. => "function".toList
  | validator _ => "validator".toList
  | block _ => "block".toList
  | deferred _ => "deferred block".toList

end Templating
