import Templating.Compilation

/-!
# Building a template step by step

A builder collects a source, partials, a registry and options in any order; the last source,
registry and options set are the ones used. A file is read when the template is built, and before
anything is changed: a builder that fails leaves a shared registry as it was.
-/

namespace Templating

variable {σ : Type}

/-- Where the text of a template comes from. -/
inductive Source where
  | text (content : Text)
  | file (path : Text)

/-- What has been collected for a template. -/
structure Builder (σ : Type) where
  source : Option Source
  partials : Entries (Partial σ)
  registry : Option RegistryId
  config : Config

namespace Builder

/-- Nothing collected, and the default options. -/
def empty : Builder σ := ⟨none, [], none, Config.default⟩

/-- Takes the text from the caller. -/
def fromText (b : Builder σ) (content : Text) : Builder σ :=
  { b with source := some (.text content) }

/-- Takes the text from a file. -/
def fromFile (b : Builder σ) (path : Text) : Builder σ := { b with source := some (.file path) }

/-- Adds a partial. -/
def withPartial (b : Builder σ) (name : Text) (entry : Partial σ) : Builder σ :=
  { b with partials := b.partials.insert name entry }

/-- Adds several partials. -/
def withPartials (b : Builder σ) (partials : Entries (Partial σ)) : Builder σ :=
  { b with partials := b.partials.insertAll partials }

/-- Compiles against a registry of the caller, into which the partials are inserted. -/
def withRegistry (b : Builder σ) (r : RegistryId) : Builder σ := { b with registry := some r }

/-- Sets all options. -/
def withConfig (b : Builder σ) (config : Config) : Builder σ := { b with config := config }

/-- Makes unresolved paths an error. -/
def strict (b : Builder σ) : Builder σ := { b with config := { b.config with strictPaths := true } }

/-- The text of the source. -/
def content (b : Builder σ) (read : Text → Except Error Text) : Except Error Text :=
  match b.source with
  | none => .error .noSource
  | some (.text content) => .ok content
  | some (.file path) => read path

/-- Builds the template; `read` reads a file. -/
def build (b : Builder σ) (read : Text → Except Error Text) : Run σ Template := do
  let content ← Run.ofExcept (b.content read)
  match b.registry with
  | some r =>
    modify fun s => b.partials.foldl (fun s (name, entry) => s.insert r name entry) s
    Run.compile r true b.config content
  | none => Run.compileWith b.partials b.config content

end Builder

end Templating
