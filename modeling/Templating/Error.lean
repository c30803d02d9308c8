import Templating.Value

/-!
# Errors

An error is its cause; `Error.message` words it and `Error.kind` says which of six families it
belongs to. There is no recovery: an error ends the compilation or the rendering that raised it.
-/

namespace Templating

/-- The families of errors. -/
inductive ErrorKind where
  | syntaxError
  | renderError
  | typeError
  | jsonError
  | configError
  | ioError
  deriving DecidableEq

/-- What kind of value was met, if one was. -/
inductive Shape where
  | absent
  | null
  | boolean
  | number
  | string
  | array
  | object
  deriving DecidableEq

/-- The shape of a value that may be absent. -/
def Shape.of : Option Value → Shape
  | none => .absent
  | some .null => .null
  | some (.bool _) => .boolean
  | some (.number _) => .number
  | some (.string _) => .string
  | some (.array _) => .array
  | some (.object _) => .object

/-- Why a file cannot be read. -/
inductive FileFault where
  | missing
  | isDirectory
  /-- A name of the path is that of a file, and the path goes on. -/
  | notDirectory
  | nameTooLong
  | nulInName
  | notText
  deriving DecidableEq

/-- The causes of failure. -/
inductive Error where
  /-- A tag names a filter that does not exist. -/
  | unknownFilter (name : Text)
  /-- A character opens no kind of block. -/
  | unknownMark (mark : Text)
  /-- In strict mode a path leads nowhere. -/
  | unresolvedPath (path : Text)
  /-- The value of a tag contains the tag. -/
  | selfExpansion (tag : Text)
  /-- There are tags left after the allowed number of passes. -/
  | unsettled (passes : Nat)
  /-- A block outlived the registry it refers to. -/
  | registryDropped
  /-- The path of a repeating block does not lead to an array. -/
  | notIterable (path : Text)
  /-- A filter on strings met something else. -/
  | expectsString (filter : Text) (got : Shape)
  /-- A filter on arrays met something else. -/
  | expectsArray (filter : Text) (got : Shape)
  /-- A validator stands where a value is asked for. -/
  | validatorAsValue
  /-- A key of the render data has no text. -/
  | keyNotText
  /-- A builder was finished without a source. -/
  | noSource
  /-- A template file cannot be read. -/
  | unreadable (path : Text) (fault : FileFault)
  /-- A closure of the caller failed. -/
  | raised (kind : ErrorKind) (message : Text)
  deriving DecidableEq

namespace ErrorKind

/-- What the message of an error of this family begins with. -/
def heading : ErrorKind → Text
  | syntaxError => "Syntax error: ".toList
  | renderError => "Render error: ".toList
  | typeError => "Type error: ".toList
  | jsonError => "JSON error: ".toList
  | configError => "Configuration error: ".toList
  | ioError => "IO error: ".toList

end ErrorKind

namespace Shape

/-- The shape in words. -/
def words : Shape → Text
  | absent => "an absent value".toList
  | null => "null".toList
  | boolean => "a boolean".toList
  | number => "a number".toList
  | string => "a string".toList
  | array => "an array".toList
  | object => "an object".toList

end Shape

namespace FileFault

/-- The fault in the words of the operating system, with its number where it has one. -/
def words : FileFault → Text
  | missing => "No such file or directory (os error 2)".toList
  | isDirectory => "Is a directory (os error 21)".toList
  | notDirectory => "Not a directory (os error 20)".toList
  | nameTooLong => "File name too long (os error 36)".toList
  | nulInName => "file name contained an unexpected NUL byte".toList
  | notText => "stream did not contain valid UTF-8".toList

end FileFault

namespace Error

/-- A text between quotes. -/
def quoted (t : Text) : Text := '"' :: (t ++ ['"'])

/-- The family of an error. -/
def kind : Error → ErrorKind
  | unknownFilter _ | unknownMark _ => .syntaxError
  | unresolvedPath _ | selfExpansion _ | unsettled _ | registryDropped => .renderError
  | notIterable _ | expectsString .. | expectsArray .. | validatorAsValue => .typeError
  | keyNotText => .jsonError
  | noSource => .configError
  | unreadable .. => .ioError
  | raised kind _ => kind

/-- The cause of an error in words, without the heading of its family. -/
def details : Error → Text
  | unknownFilter name => "unhandled filter ".toList ++ quoted name
  | unknownMark mark => "unhandled prefix ".toList ++ quoted mark
  | unresolvedPath path => "unresolved path ".toList ++ quoted path
  | selfExpansion tag => "tag ".toList ++ quoted tag ++ " expands to itself".toList
  | unsettled passes =>
    "tag substitution did not settle after ".toList ++ Text.ofNat passes ++ " passes".toList
  | registryDropped => "Partial registry was dropped before rendering".toList
  | notIterable path => quoted path ++ " is not iterable".toList
  | expectsString filter got =>
    "filter ".toList ++ quoted filter ++ " expects a string, got ".toList ++ got.words
  | expectsArray filter got =>
    "filter ".toList ++ quoted filter ++ " expects an array, got ".toList ++ got.words
  | validatorAsValue => "a validator partial cannot be rendered as a value".toList
  | keyNotText => "key must be a string".toList
  | noSource => "No template source provided. Use from_str() or from_file()".toList
  | unreadable path fault =>
    "Failed to read template file '".toList ++ path ++ "': ".toList ++ fault.words
  | raised _ message => message

/-- The full message of an error. -/
def message (e : Error) : Text := e.kind.heading ++ e.details

end Error

end Templating
