import Templating.Builder
import Templating.Folder
import Templating.Lifetime
import Templating.Rendering
import Templating.Report
import Templating.TemplateCache

/-!
# Sessions

A session is what a caller works with: objects under names of its choice, template files, and the
store. Each step of a session looks up the objects it names, does one thing with them, and leaves
the registries that nobody holds any more closed.

* `Session.perform` runs a step;
* `SessionM` is the type of steps, which fail where an object is missing or the library fails;
* the steps themselves follow, grouped by the objects they work on.
-/

namespace Templating

variable {σ α : Type}

/-- Something that a caller holds. -/
inductive Object (σ : Type) where
  | registry (r : RegistryId)
  | template (t : Shared Template)
  | composite (children : List (Node σ))
  | block (node : Shared (Node σ))
  /-- A node that another object, or a registry, has too. -/
  | borrowed (node : Shared (Node σ))
  | entry (entry : Partial σ)
  | cache (cache : TemplateCache (Shared Template))

/-- The work of a caller. -/
structure Session (σ : Type) where
  objects : Entries (Object σ)
  files : Folder
  store : Store σ

/-- Why a step has no answer. -/
inductive Refusal where
  | failed (failure : Failure)
  /-- No object of the right kind has this name. -/
  | noObject (id : Text)
  deriving DecidableEq

/-- A step of a session. -/
abbrev SessionM (σ : Type) := ExceptT Refusal (StateM (Session σ))

namespace Object

/-- What an object holds. -/
def holdings : Object σ → Holdings
  | registry r => ⟨[r], []⟩
  | template t => t.value.holdings
  | composite children => .concat (children.map Node.holdings)
  | block node => node.value.holdings
  | borrowed node => node.value.holdings
  | entry e => e.holdings
  | cache c => .concat (c.entries.map fun e => e.template.value.holdings)

/-- The node that an object shares with whoever uses it. A composite object, to which more can
still be added, shares none. -/
def shared? : Object σ → Option (Shared (Node σ))
  | template t => some ⟨t.identity, .template t.value⟩
  | block node => some node
  | borrowed node => some node
  | entry (.block node) => some node
  | _ => none

/-- An object as a node, if it can be one. -/
def node? : Object σ → Option (Node σ)
  | composite children => some (Node.concat children)
  | object => object.shared?.map (·.value)

end Object

namespace Session

/-! ## Running steps -/

/-- A session in which nothing has happened. -/
def empty (caller : σ) : Session σ := ⟨[], [], Store.empty caller⟩

/-- What all objects hold. -/
def holdings (s : Session σ) : Holdings :=
  .concat (s.objects.map fun (_, object) => object.holdings)

/-- Runs a step and closes the registries that it leaves unheld. -/
def perform (step : SessionM σ α) (s : Session σ) : Except Refusal α × Session σ :=
  let (answer, s) := step.run.run s
  (answer, { s with store := s.store.release s.holdings })

/-- A computation on the store as a step. -/
def lift (x : Run σ α) : SessionM σ α := do
  let s ← get
  let (outcome, store) := x.exec s.store
  set { s with store := store }
  match outcome with
  | .ok a => return a
  | .error failure => throw (.failed failure)

/-- Binds a name to an object. -/
def bind (id : Text) (object : Object σ) : SessionM σ Unit :=
  modify fun s => { s with objects := s.objects.insert id object }

/-! ## Looking up objects -/

/-- What `pick` takes of the object with a name. -/
def lookUp (id : Text) (pick : Object σ → Option α) : SessionM σ α := do
  let s ← get
  match (s.objects.get? id).bind pick with
  | some a => return a
  | none => throw (.noObject id)

/-- The registry with a name. -/
def registry (id : Text) : SessionM σ RegistryId :=
  lookUp id fun | .registry r => some r | _ => none

/-- The template with a name. -/
def template (id : Text) : SessionM σ Template :=
  lookUp id fun | .template t => some t.value | _ => none

/-- The cache with a name. -/
def cache (id : Text) : SessionM σ (TemplateCache (Shared Template)) :=
  lookUp id fun | .cache c => some c | _ => none

/-- The block of a template that was kept under a name. -/
def deferred (id : Text) : SessionM σ BlockId :=
  lookUp id fun | .entry (.deferred b) => some b | _ => none

/-- The cell of the cached node with a name. -/
def cell (id : Text) : SessionM σ CellId :=
  lookUp id fun object =>
    match object.node? with
    | some (.cached cell ..) => some cell
    | _ => none

/-- The node with a name, for use in another node. -/
def node (id : Text) : SessionM σ (Node σ) := lookUp id Object.node?

/-! ## Making nodes and templates -/

/-- A node that keeps its output. -/
def cachedNode (validator : Option (Validator σ)) (body : Node σ) : SessionM σ (Node σ) := do
  let cell ← lift (modifyGet Store.newCell)
  return .cached cell validator body

/-- A thing with an identity. -/
def share (value : α) : SessionM σ (Shared α) := lift (modifyGet fun s => s.share value)

/-- The node with a name, for use as it is: whoever uses it has the same node. -/
def sharedNode (id : Text) : SessionM σ (Shared (Node σ)) := do
  let s ← get
  match (s.objects.get? id).bind Object.shared? with
  | some node => return node
  | none => share (← node id)

/-- The object with a name as a partial. -/
def entry (id : Text) : SessionM σ (Partial σ) := do
  let s ← get
  match s.objects.get? id with
  | some (.entry e) => return e
  | _ => return .block (← sharedNode id)

/-- Compiles a text against the registry with a name or, without one, a registry of its own. -/
def compile (content : Text) (registryId : Option Text) (partials : Entries (Partial σ))
    (config : Config) : SessionM σ Template := do
  match registryId with
  | some id =>
    let r ← registry id
    lift (Run.compile r true config content)
  | none => lift (Run.compileWith partials config content)

/-- Keeps a template under a name. -/
def keepTemplate (id : Text) (t : Template) : SessionM σ Template := do
  bind id (.template (← share t))
  return t

/-! ## Files -/

/-- Writes a file. -/
def writeFile (name : Text) (content : Option Text) : SessionM σ Unit :=
  modify fun s => { s with files := s.files.insert name content }

/-- Compiles the contents of a file with partials of its own. -/
def compileFile (path : Text) (partials : Entries (Partial σ)) : SessionM σ Template := do
  let s ← get
  let content ← lift (Run.ofExcept (s.files.read path))
  lift (Run.compileWith partials Config.default content)

/-- Builds the template that a builder describes. -/
def build (b : Builder σ) : SessionM σ Template := do
  let s ← get
  lift (b.build s.files.read)

/-! ## Registries -/

/-- The names of a registry. -/
def names (r : RegistryId) : SessionM σ (List Text) := do
  let s ← get
  return (s.store.entries r).names

/-- Makes a registry and keeps it under a name. -/
def newRegistry (id : Text) (partials : Entries (Partial σ)) : SessionM σ RegistryId := do
  let r ← lift (modifyGet fun s => s.newRegistry partials)
  bind id (.registry r)
  return r

/-- Keeps the registry of a template under a name. -/
def registryOf (templateId id : Text) : SessionM σ RegistryId := do
  let t ← template templateId
  bind id (.registry t.registry)
  return t.registry

/-- Inserts a partial and gives the one that it replaces. -/
def insert (r : RegistryId) (name : Text) (new : Partial σ) : SessionM σ (Option (Partial σ)) := do
  let s ← get
  let previous := (s.store.entries r).get? name
  set { s with store := s.store.insert r name new }
  return previous

/-- Removes a partial and gives it back. -/
def remove (r : RegistryId) (name : Text) : SessionM σ (Option (Partial σ)) := do
  let s ← get
  let removed := (s.store.entries r).get? name
  set { s with store := s.store.erase r name }
  return removed

/-- The partial of a name, kept under a name of the session if one is given. -/
def get? (r : RegistryId) (name : Text) (keepAs : Option Text) :
    SessionM σ (Option (Partial σ)) := do
  let s ← get
  let found := (s.store.entries r).get? name
  match found, keepAs with
  | some e, some id => bind id (.entry e)
  | _, _ => pure ()
  return found

/-! ## Nodes -/

/-- A node as it comes from a caller who describes it. -/
inductive Described (σ : Type) where
  /-- Nodes one after the other, to which more can be added. -/
  | composite (children : List (Node σ))
  /-- A compiled template. -/
  | template (t : Template)
  /-- Any other node. -/
  | node (node : Node σ)
  /-- The node of another object. -/
  | borrowed (node : Shared (Node σ))

/-- Keeps a node under a name and reports what it is; the node of another object has no report. -/
def keepNode (id : Text) (described : Described σ) : SessionM σ Text := do
  let s ← get
  match described with
  | .composite children =>
    bind id (.composite children)
    return Report.composite children
  | .template t =>
    let _ ← keepTemplate id t
    return Report.template t
  | .node node =>
    bind id (.block (← share node))
    return Report.node s.store node
  | .borrowed node =>
    bind id (.borrowed node)
    return []

/-- The children of a composite object. -/
def children (id : Text) : SessionM σ (List (Node σ)) :=
  lookUp id fun | .composite children => some children | _ => none

/-- Adds a child to a composite object and gives their number. -/
def push (id : Text) (child : Node σ) : SessionM σ Nat := do
  let children ← children id
  bind id (.composite (children ++ [child]))
  return children.length + 1

/-- Whether two objects are one. -/
def same (a b : Text) : SessionM σ Bool := do
  let identity (object : Object σ) : Option Nat := object.shared?.map (·.identity)
  return (← lookUp a identity) == (← lookUp b identity)

/-- Whether the cached node with a name keeps an output, and its report. -/
def isCached (id : Text) : SessionM σ (Bool × Text) := do
  let cell ← cell id
  let node ← node id
  let s ← get
  return ((s.store.snapshot? cell).isSome, Report.node s.store node)

/-- Drops the output of the cached node with a name. -/
def invalidate (id : Text) : SessionM σ Unit := do
  let cell ← cell id
  modify fun s => { s with store := s.store.keep cell none }

/-! ## Blocks of templates -/

/-- The record of a kept block. -/
def issued (id : Text) : SessionM σ (Issued σ) := do
  let b ← deferred id
  let s ← get
  match s.store.issued? b with
  | some issued => return issued
  | none => throw (.noObject id)

/-- Makes the node of a kept block, and keeps it under a name if one is given. -/
def buildNode (id : Text) (keepAs : Option Text) : SessionM σ Unit := do
  let b ← deferred id
  let node ← lift (Run.build b)
  match keepAs with
  | some id => bind id (.borrowed node)
  | none => pure ()

/-- Takes the blocks out of a text and registers them. -/
def extract (r : RegistryId) (config : Config) (content : Text) : SessionM σ Extraction :=
  lift (Run.extract r config content)

/-! ## Rendering -/

/-- Renders an object. -/
def render (id : Text) (params : Value) : SessionM σ Text := do
  let node ← node id
  lift (Node.render Node.depthLimit node params)

/-- Renders a template with data whose keys may be of any kind. -/
def renderData (id : Text) (pairs : List (Value × Value)) : SessionM σ Text := do
  let t ← template id
  let params ← lift (Run.ofExcept (Value.ofPairs pairs))
  lift (Node.render Node.depthLimit (.template t) params)

/-- Renders the tags of a text, whose blocks stay as they are. -/
def renderTags (r : RegistryId) (config : Config) (content : Text) (params : Value) :
    SessionM σ Text :=
  lift (Run.renderTags (Node.render Node.depthLimit) r config content params)

/-! ## Caches -/

/-- Makes a cache. -/
def newCache (id : Text) (maxEntries : Option Nat) (config : Option Config) :
    SessionM σ CacheStats := do
  let c := TemplateCache.new (maxEntries.getD TemplateCache.defaultMaxEntries)
    (config.getD Config.default)
  bind id (.cache c)
  return c.stats

/-- How a cache compiles a text that it does not have. -/
inductive Compiler (σ : Type) where
  /-- With the options of the cache and no partials. -/
  | plain
  /-- With partials and the default options, possibly another text. -/
  | withPartials (partials : Entries (Partial σ)) (content : Text)
  /-- It fails. -/
  | failing (e : Error)

/-- The template of a cache for a text, kept under a name if one is given. The cache is
changed even where the compilation fails. -/
def cacheGet (id content : Text) (keepAs : Option Text) (compiler : Compiler σ) :
    SessionM σ (Except Failure Template) := do
  let c ← cache id
  let compile : Run σ (Shared Template) := do
    let t ← match compiler with
      | .plain => Run.compileWith [] c.config content
      | .withPartials partials content => Run.compileWith partials Config.default content
      | .failing e => Run.fail e
    modifyGet fun s => s.share t
  let s ← get
  let (outcome, c, store) := c.getOrCompile content compile s.store
  set { s with store := store }
  bind id (.cache c)
  match outcome, keepAs with
  | .ok t, some id => bind id (.template t)
  | _, _ => pure ()
  return outcome.map (·.value)

/-- Removes a text from a cache; its template is kept under a name if one is given. -/
def cacheRemove (id content : Text) (keepAs : Option Text) : SessionM σ (Option Template) := do
  let c ← cache id
  let (removed, c) := c.remove content
  bind id (.cache c)
  match removed, keepAs with
  | some t, some id => bind id (.template t)
  | _, _ => pure ()
  return removed.map (·.value)

/-- Empties a cache. -/
def cacheClear (id : Text) : SessionM σ CacheStats := do
  let c ← cache id
  bind id (.cache c.clear)
  return c.clear.stats

/-! ## Everything else -/

/-- The report of an object; caches and the nodes of other objects have none. -/
def report (id : Text) : SessionM σ Text := do
  let s ← get
  match s.objects.get? id with
  | some (.registry r) => return Report.registry s.store r
  | some (.template t) => return Report.template t.value
  | some (.composite children) => return Report.composite children
  | some (.block node) => return Report.node s.store node.value
  | some (.borrowed _) => return []
  | some (.entry e) => return Report.entry s.store e
  | some (.cache _) => return []
  | none => throw (.noObject id)

/-- Lets go of an object. -/
def drop (id : Text) : SessionM σ Unit := do
  let _ ← lookUp id fun object => some object
  modify fun s => { s with objects := s.objects.erase id }

/-- The lines of the log since they were last read. -/
def readLog : SessionM σ (List Text) := do
  let s ← get
  let (events, store) := s.store.takeEvents
  set { s with store := store }
  return events.map Event.line

end Session

end Templating
