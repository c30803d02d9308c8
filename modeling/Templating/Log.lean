import Templating.Block

/-!
# Log

What a caller can watch the library do. `Event.line` words an event as one line, its level first.
-/

namespace Templating

/-- How detailed an event is. -/
inductive Level where
  | debug
  | trace
  deriving DecidableEq

/-- What happened. -/
inductive Event where
  /-- A block was taken out of a text and registered. -/
  | extracted (kind : BlockKind) (placeholder name : Text)
  /-- The compilation of a template took out this many blocks. -/
  | extractedAll (count : Nat)
  /-- The node of a block is being made. -/
  | building (kind : BlockKind) (placeholder : Text)
  /-- A cached block found the node of its name. -/
  | slotReused (slot : Text)
  /-- A tag refers to a partial that is not there. -/
  | notRegistered (name : Text)
  /-- A cached node gave its stored output. -/
  | outputReused
  /-- A cached node renders anew. -/
  | outputRecomputed
  /-- A template was found in the template cache; its content has this many bytes. -/
  | templateHit (bytes : Nat)
  /-- A template was not found in the template cache. -/
  | templateMiss (bytes : Nat)
  /-- A template had to leave the template cache. -/
  | templateEvicted (bytes : Nat)
  deriving DecidableEq

namespace Event

/-- The level of an event. -/
def level : Event → Level
  | extracted .. | extractedAll _ | building .. => .debug
  | _ => .trace

/-- A size in words. -/
def inBytes (bytes : Nat) : Text := " (".toList ++ Text.ofNat bytes ++ " bytes)".toList

/-- An event in words. -/
def message : Event → Text
  | extracted kind placeholder name =>
    "extracted ".toList ++ kind.name ++ " block ".toList ++ Error.quoted placeholder
      ++ " as ".toList ++ name
  | extractedAll count =>
    "extracted ".toList ++ Text.ofNat count ++ " block(s) from template".toList
  | building kind placeholder =>
    "building ".toList ++ kind.name ++ " block ".toList ++ Error.quoted placeholder
  | slotReused slot => "reusing cache slot ".toList ++ slot
  | notRegistered name => "partial ".toList ++ Error.quoted name ++ " is not registered".toList
  | outputReused => "cached block reused".toList
  | outputRecomputed => "cached block recomputed".toList
  | templateHit bytes => "template cache hit".toList ++ inBytes bytes
  | templateMiss bytes => "template cache miss".toList ++ inBytes bytes
  | templateEvicted bytes => "evicting cached template".toList ++ inBytes bytes

/-- The level and the words of an event. -/
def line (e : Event) : Text :=
  (match e.level with
    | .debug => "DEBUG ".toList
    | .trace => "TRACE ".toList) ++ e.message

end Event

end Templating
