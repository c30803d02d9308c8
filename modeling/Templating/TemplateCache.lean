import Templating.Run

/-!
# The template cache

Compiled templates by the text they were compiled from. Every request moves a clock, and an entry
bears the time of its last request; when the cache is full, the entry with the oldest time makes
room for a new one. A failed compilation is not stored.

The cache does not look into what it stores, so `α` can be any type.
-/

namespace Templating

variable {σ α : Type}

/-- A stored template. -/
structure CacheEntry (α : Type) where
  content : Text
  template : α
  lastUsed : Nat

/-- A cache of templates. -/
structure TemplateCache (α : Type) where
  entries : List (CacheEntry α)
  /-- How many entries are kept before one has to leave. -/
  maxEntries : Nat
  /-- The options that templates are compiled with. -/
  config : Config
  clock : Nat
  hits : Nat
  misses : Nat

/-- The numbers that describe the use of a cache. -/
structure CacheStats where
  hits : Nat
  misses : Nat
  hitRate : Double
  entries : Nat
  maxEntries : Nat
  deriving DecidableEq

namespace TemplateCache

/-- A cache without entries. -/
def new (maxEntries : Nat) (config : Config) : TemplateCache α := ⟨[], maxEntries, config, 0, 0, 0⟩

/-- The number of entries that a cache keeps unless told otherwise. -/
def defaultMaxEntries : Nat := 100

/-- The template stored for a text. -/
def find? (cache : TemplateCache α) (content : Text) : Option α :=
  (cache.entries.find? fun e => e.content = content).map (·.template)

/-- Whether a template is stored for a text. -/
def contains (cache : TemplateCache α) (content : Text) : Bool := (cache.find? content).isSome

/-- Moves the clock, looks for a text and counts a hit or a miss; a hit renews the entry. -/
def request (cache : TemplateCache α) (content : Text) : Option α × TemplateCache α :=
  let now := cache.clock + 1
  match cache.find? content with
  | some template =>
    let renewed := cache.entries.map fun e =>
      if e.content = content then { e with lastUsed := now } else e
    (some template, { cache with entries := renewed, clock := now, hits := cache.hits + 1 })
  | none => (none, { cache with clock := now, misses := cache.misses + 1 })

/-- The entry that was requested longest ago. -/
def oldest? : List (CacheEntry α) → Option (CacheEntry α)
  | [] => none
  | e :: rest =>
    match oldest? rest with
    | none => some e
    | some other => if e.lastUsed ≤ other.lastUsed then some e else some other

/-- The cache without the entry of a text. -/
def erase (cache : TemplateCache α) (content : Text) : TemplateCache α :=
  { cache with entries := cache.entries.filter fun e => e.content ≠ content }

/-- Removes the oldest entry if the cache is full, and says which text it was for. -/
def makeRoom (cache : TemplateCache α) : Option Text × TemplateCache α :=
  if cache.maxEntries ≤ cache.entries.length then
    match oldest? cache.entries with
    | some e => (some e.content, cache.erase e.content)
    | none => (none, cache)
  else (none, cache)

/-- Stores a template under a text that is not in the cache, with the time of the last request, and
says which text had to leave. -/
def store (cache : TemplateCache α) (content : Text) (template : α) :
    Option Text × TemplateCache α :=
  let (evicted, cache) := cache.makeRoom
  (evicted, { cache with entries := cache.entries ++ [⟨content, template, cache.clock⟩] })

/-- The template stored for a text, compiled if there is none. -/
def getOrCompile (cache : TemplateCache α) (content : Text) (compile : Run σ α) (s : Store σ) :
    Except Failure α × TemplateCache α × Store σ :=
  let bytes := Text.byteSize content
  match cache.request content with
  | (some template, cache) => (.ok template, cache, s.emit (.templateHit bytes))
  | (none, cache) =>
    match compile.exec (s.emit (.templateMiss bytes)) with
    | (.error failure, s) => (.error failure, cache, s)
    | (.ok template, s) =>
      match cache.store content template with
      | (some evicted, cache) =>
        (.ok template, cache, s.emit (.templateEvicted (Text.byteSize evicted)))
      | (none, cache) => (.ok template, cache, s)

/-- Removes the entry of a text and says what it was. -/
def remove (cache : TemplateCache α) (content : Text) : Option α × TemplateCache α :=
  (cache.find? content, cache.erase content)

/-- Removes all entries and starts to count anew; the clock goes on. -/
def clear (cache : TemplateCache α) : TemplateCache α :=
  { cache with entries := [], hits := 0, misses := 0 }

/-- How the cache has been used. The hit rate is zero before the first request. -/
def stats (cache : TemplateCache α) : CacheStats where
  hits := cache.hits
  misses := cache.misses
  hitRate :=
    if 0 < cache.hits + cache.misses then
      Double.ofRatio false cache.hits (cache.hits + cache.misses)
    else Double.zero
  entries := cache.entries.length
  maxEntries := cache.maxEntries

end TemplateCache

end Templating
