import Templating.Compilation
import Templating.Draft
import Templating.Filter

/-!
# Rendering

A text is rendered by passes over a draft. Each pass takes the first tag that is left, evaluates it,
and puts the result in place of every occurrence of that tag.

Rendering is built up from below. Everything a tag can lead to is defined from `below`, the
rendering of the nodes that partials hold, and `Node.render` closes the loop: each reference from a
tag to a node uses up one unit of depth, and within one unit rendering follows the tree.

* `Run.settle` is the loop of passes, for any way to evaluate a tag;
* `Run.lookup` is the value of a path, `Run.validate` the verdict of a cached block's parameter;
* `Node.render` renders a node at a given depth.
-/

namespace Templating

variable {σ : Type}

namespace Run

/-! ## Passes -/

/-- Replaces tags until none is left. `evaluate` is given a tag and the indent before it. -/
def settle (maxPasses : Nat) (evaluate : Tag → Text → Run σ Text) :
    (passesLeft : Nat) → Draft → Run σ Text
  | passesLeft, draft =>
    match draft.place? with
    | none => pure draft.text
    | some place => do
      let value ← evaluate place.tag place.indent
      match passesLeft with
      | 0 => fail (.unsettled maxPasses)
      | passesLeft + 1 =>
        if Text.containsPattern place.tag.text value then
          fail (.selfExpansion place.tag.text)
        else
          settle maxPasses evaluate passesLeft (place.fill value)

/-- The text that a tag becomes, given what its path leads to. -/
def evaluateTag (lookup : Text → Run σ (Option Value)) (config : Config) (tag : Tag)
    (indent : Text) : Run σ Text := do
  let value ← lookup tag.path
  if value.isNone && config.strictPaths then
    fail (.unresolvedPath tag.path)
  let value ← match tag.filter with
    | some filter => ofExcept (Filter.applyNamed filter value)
    | none => pure value
  return config.textOf tag.escaped indent value

/-! ## Paths -/

/-- The value that a partial stands for. Functions are called until they return something else;
nodes stand for their output. -/
def resolvePartial (below : Node σ → Value → Run σ Text) (params : Value) :
    Partial σ → Run σ (Option Value)
  | .value value => pure (some value)
  | .function call after _ => do
    let s ← get
    set { s with caller := after params s.caller }
    resolvePartial below params (call params s.caller)
  | .validator _ => fail .validatorAsValue
  | .block node => return some (.string (← below node.value params))
  | .deferred block => do
    let node ← build block
    return some (.string (← below node.value params))

/-- The name of a partial that a path begins with, and the path that follows it. -/
def splitReference (reference : Text) : Text × Option Text :=
  match Text.cut? Value.pathSeparator reference with
  | some (name, rest) => (name, some rest)
  | none => (reference, none)

/-- The value that a path leads to: in the registry if it begins with `@`, else in the
parameters. -/
def lookup (below : Node σ → Value → Run σ Text) (r : RegistryId) (params : Value) (path : Text) :
    Run σ (Option Value) :=
  match path with
  | '@' :: reference => do
    let (name, rest) := splitReference reference
    let s ← get
    match (s.entries r).get? name with
    | none =>
      emit (.notRegistered name)
      return none
    | some entry =>
      let value ← resolvePartial below params entry
      match rest with
      | some rest => return value.bind (Value.resolve? rest)
      | none => return value
  | _ => pure (Value.resolve? path params)

/-- The verdict of the parameter of a cached block. After `@` stands the whole name of a partial: a
validator is asked, anything else is judged by the truthiness of its value. -/
def validate (below : Node σ → Value → Run σ Text) (r : RegistryId) (path : Text)
    (params previous : Value) : Run σ Bool :=
  match path with
  | '@' :: name => do
    let s ← get
    match (s.entries r).get? name with
    | some (.validator accepts) => act (accepts params previous)
    | some entry =>
      return Value.isTruthyAndPresent (← resolvePartial below params entry)
    | none => return false
  | _ => pure (Value.isTruthyAndPresent (Value.resolve? path params))

/-! ## Templates -/

/-- Renders a text without blocks. -/
def renderTags (below : Node σ → Value → Run σ Text) (r : RegistryId) (config : Config)
    (content : Text) (params : Value) : Run σ Text :=
  settle config.maxPasses (evaluateTag (lookup below r params) config) config.maxPasses
    (Draft.ofText content)

/-- Renders a template, if its registry is still open. -/
def renderTemplate (below : Node σ → Value → Run σ Text) (t : Template) (params : Value) :
    Run σ Text := do
  requireOpen t.registry
  renderTags below t.registry t.config t.content params

/-! ## Conditions and validators -/

/-- Whether a condition holds. -/
def test (below : Node σ → Value → Run σ Text) (params : Value) : Condition σ → Run σ Bool
  | .closure holds => do ofExcept (← act (holds params))
  | .path r path negated => do
    requireOpen r
    let value ← lookup below r params path
    return Value.isFalsyOrAbsent value == negated

/-- Whether a validator accepts the parameters after the previous ones. -/
def accepts (below : Node σ → Value → Run σ Text) (params previous : Value) :
    Validator σ → Run σ Bool
  | .closure accepts => act (accepts params previous)
  | .path r path => do
    requireOpen r
    validate below r path params previous

/-! ## Loops -/

/-- The key of the loop context in the parameters of an item. -/
def loopKey : Text := "loop".toList

/-- The loop context of an item. -/
def loopContext (index size : Nat) : Value :=
  .object (Members.overlay [] [
    ("index".toList, Value.ofNat index),
    ("first".toList, .bool (index == 0)),
    ("last".toList, .bool (index + 1 == size)),
    ("number".toList, Value.ofNat (index + 1)),
    ("size".toList, Value.ofNat size)])

/-- An item, or the object that has it under a name. -/
def namedItem (itemName : Option Text) (item : Value) : Value :=
  match itemName with
  | some name => if name = [] then item else .object [(name, item)]
  | none => item

/-- What an item contributes to its parameters: the item itself, or under a name, and then what
the transform makes of it. -/
def itemScope (itemName : Option Text) (transform : Option (Value → Value → Action σ Value))
    (params item : Value) : Action σ Value :=
  match transform with
  | some transform => transform (namedItem itemName item) params
  | none => fun caller => (namedItem itemName item, caller)

/-- The parameters of an item: the outer ones, what the item contributes, and the loop context. -/
def loopParams (params scope : Value) (index size : Nat) : Value :=
  .object (Members.insert loopKey (loopContext index size) (Value.overlay params scope))

/-- Makes the parameters of an item. -/
def itemParams (itemName : Option Text) (transform : Option (Value → Value → Action σ Value))
    (params item : Value) (index size : Nat) : Run σ Value := do
  let scope ← act (itemScope itemName transform params item)
  return loopParams params scope index size

/-- Renders the items in order and puts the outputs together; the first failure ends it. The
parameters of an item are made when its turn comes. -/
def renderItems (body : Value → Run σ Text) (scope : Value → Nat → Run σ Value) :
    (index : Nat) → List Value → Run σ Text
  | _, [] => pure []
  | index, item :: rest => do
    let output ← body (← scope item index)
    let others ← renderItems body scope (index + 1) rest
    return output ++ others

/-- Renders the body once for each item of the array that a path leads to. -/
def renderRepeating (body : Value → Run σ Text) (path : Text) (itemName : Option Text)
    (transform : Option (Value → Value → Action σ Value)) (params : Value) : Run σ Text :=
  match Value.resolve? path params with
  | some (.array items) =>
    renderItems body
      (fun item index => itemParams itemName transform params item index items.length) 0 items
  | _ => fail (.notIterable path)

/-! ## Cached nodes -/

/-- Renders a cached node. The validator is asked only when an output is kept, and sees the
parameters of the last rendering that succeeded. A failure leaves the cell as it was. -/
def renderCached (cell : CellId) (validator : Option (Value → Value → Run σ Bool))
    (body : Value → Run σ Text) (params : Value) : Run σ Text := do
  let s ← get
  let reusable ← match s.snapshot? cell with
    | none => pure none
    | some snapshot =>
      match validator with
      | none => pure (some snapshot.output)
      | some validator => do
        let valid ← validator params snapshot.params
        pure (if valid then some snapshot.output else none)
  let output ← match reusable with
    | some output => do
      emit .outputReused
      pure output
    | none => do
      emit .outputRecomputed
      body params
  modify fun s => s.keep cell (some ⟨output, params⟩)
  return output

end Run

/-! ## Nodes -/

namespace Node

/-- Renders a node, given the rendering of the nodes that its tags refer to. -/
def renderVia (below : Node σ → Value → Run σ Text) : Node σ → Value → Run σ Text
  | literal text, _ => pure text
  | sequence first second, params => do
    let output ← renderVia below first params
    let rest ← renderVia below second params
    return output ++ rest
  | onlyIf test body, params => do
    if ← Run.test below params test then
      renderVia below body params
    else
      return []
  | ifElse test onTrue onFalse, params => do
    if ← Run.test below params test then
      renderVia below onTrue params
    else
      renderVia below onFalse params
  | repeatingWith path itemName transform body, params =>
    Run.renderRepeating (renderVia below body) path itemName transform params
  | cached cell validator body, params =>
    Run.renderCached cell
      (validator.map fun v => fun params previous => Run.accepts below params previous v)
      (renderVia below body) params
  | indented unit count body, params => do
    return Text.indentLines (unit.repeated count) (← renderVia below body params)
  | callback call, params => Run.act (call params)
  | template t, params => Run.renderTemplate below t params

/-- Renders a node. `depth` bounds how deep references from tags to nodes are nested. -/
def render : (depth : Nat) → Node σ → Value → Run σ Text
  | 0 => renderVia fun _ _ => throw .tooDeep
  | depth + 1 => renderVia (render depth)

/-- The depth that rendering is given; only a chain of references that never ends comes near. -/
def depthLimit : Nat := 1000000

end Node

end Templating
