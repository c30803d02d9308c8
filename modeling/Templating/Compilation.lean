import Templating.Run

/-!
# Compilation

Compiling a template takes its blocks out and registers them. The node of a block is made when the
block is first used, and then kept: its content becomes a template of its own that refers to the
same registry, so blocks inside a block are registered only then.

Cached blocks of one name share one node, which is registered under a name made from theirs.
-/

namespace Templating

variable {σ : Type}

namespace Run

/-! ## Templates -/

/-- Takes the blocks out of a text and registers them. -/
def extract (r : RegistryId) (config : Config) (content : Text) : Run σ Extraction := do
  let s ← get
  let extraction := Extraction.ofText (s.nextNumber r) content
  modify fun s => extraction.blocks.foldl (fun s block => s.issue r config block) s
  return extraction

/-- Compiles a text against a registry. -/
def compile (r : RegistryId) (ownsRegistry : Bool) (config : Config) (content : Text) :
    Run σ Template := do
  requireOpen r
  let extraction ← extract r config content
  if extraction.blocks ≠ [] then
    emit (.extractedAll extraction.blocks.length)
  return ⟨extraction.residual, r, ownsRegistry, config⟩

/-- Compiles a text against a new registry with the given partials. -/
def compileWith (partials : Entries (Partial σ)) (config : Config) (content : Text) :
    Run σ Template := do
  let r ← modifyGet fun s => s.newRegistry partials
  compile r true config content

end Run

/-! ## Blocks -/

namespace Block

/-- The tag that divides the content of a conditional block: the opening with the opposite
negation. -/
def elseTag (b : Block) : Text :=
  ({ b.opening with negated := !b.negated } : Opening).text

/-- The content of a conditional block before and after the tag that divides it. What follows a
second such tag belongs to neither part. -/
def branches (b : Block) : Text × Option Text :=
  match Text.cutAt? b.elseTag b.content with
  | none => (b.content, none)
  | some (onTrue, rest) =>
    match Text.cutAt? b.elseTag rest with
    | none => (onTrue, some rest)
    | some (onFalse, _) => (onTrue, some onFalse)

/-- The number that the parameter of an indented block begins with. Without one, or where it is
negative or not below 2^64, it is zero. -/
def indentCount (param : Text) : Nat :=
  let digits := match Text.trimStart param with
    | '-' :: _ => []
    | '+' :: rest => rest.takeWhile Text.isDigit
    | rest => rest.takeWhile Text.isDigit
  let n := Text.natOfDigits digits
  if n < Text.indexLimit then n else 0

/-- The name under which the node of the cached blocks of one name is registered. -/
def slot (b : Block) : Text := "cached_".toList ++ b.name

end Block

namespace Run

/-- The content of a block as a node. -/
def nested (r : RegistryId) (config : Config) (content : Text) : Run σ (Node σ) :=
  return .template (← compile r false config content)

/-- Makes the node of a block. -/
def buildNode (r : RegistryId) (config : Config) (block : Block) : Run σ (Shared (Node σ)) := do
  match block.kind with
  | .conditional =>
    let (onTrue, onFalse) := block.branches
    let test := .path r block.placeholder block.negated
    let onTrue ← nested r config onTrue
    match onFalse with
    | none => modifyGet fun s => s.share (.onlyIf test onTrue)
    | some onFalse =>
      let onFalse ← nested r config onFalse
      modifyGet fun s => s.share (.ifElse test onTrue onFalse)
  | .repeating =>
    let body ← nested r config block.content
    modifyGet fun s => s.share (.repeating block.name block.param none body)
  | .tabIndented =>
    let body ← nested r config block.content
    modifyGet fun s => s.share (.indented .tab (block.param.elim 0 Block.indentCount) body)
  | .spaceIndented =>
    let body ← nested r config block.content
    modifyGet fun s => s.share (.indented .space (block.param.elim 0 Block.indentCount) body)
  | .cached =>
    requireOpen r
    let s ← get
    match (s.entries r).get? block.slot with
    | some (.block node) =>
      emit (.slotReused block.slot)
      return node
    | _ =>
      let body ← nested r config block.content
      let cell ← modifyGet Store.newCell
      let validator := block.param.map (Validator.path r)
      let node ← modifyGet fun s => s.share (.cached cell validator body)
      modify fun s => s.insert r block.slot (.block node)
      return node

/-- The node of an issued block, made on first use. -/
def build (b : BlockId) : Run σ (Shared (Node σ)) := do
  let s ← get
  match s.issued? b with
  | none => fail .registryDropped
  | some issued =>
    match issued.node with
    | some node => return node
    | none =>
      emit (.building issued.block.kind issued.block.placeholder)
      let node ← buildNode b.registry issued.config issued.block
      modify fun s => s.memoize b node
      return node

end Run

end Templating
