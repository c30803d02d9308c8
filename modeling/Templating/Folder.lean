import Templating.Entries
import Templating.Error

/-!
# Folders of template files

A folder holds files and no other folders. A path is followed from the folder one name at a time, as
a file system follows it: empty names and `.` stay where they are, `..` and a path that begins with
`/` leave the folder, where nothing can be read, and nothing lies below a file.

* `Folder.content` is what the path of a file leads to;
* `Folder.read` words the failure.
-/

namespace Templating

/-- The files of a folder. A file that is not valid text has no content. -/
abbrev Folder := Entries (Option Text)

namespace Folder

/-- The most bytes that the name of a file has. -/
def nameLimit : Nat := 255

/-- What the names of a path lead to one after the other, in the folder or out of it. -/
def follow (folder : Folder) : (inside : Bool) → List Text → Except FileFault Text
  | _, [] => .error .isDirectory
  | inside, name :: rest =>
    if name = [] ∨ name = ['.'] then follow folder inside rest
    else if name = ['.', '.'] then follow folder false rest
    else if nameLimit < Text.byteSize name then .error .nameTooLong
    else
      match (folder.get? name).filter fun _ => inside with
      | none => .error .missing
      | some content =>
        if rest ≠ [] then .error .notDirectory
        else
          match content with
          | some t => .ok t
          | none => .error .notText

/-- The content of the file that a path leads to. -/
def content (folder : Folder) (path : Text) : Except FileFault Text :=
  if Char.ofNat 0 ∈ path then .error .nulInName
  else follow folder (path.head? != some '/') (Text.splitOn '/' path)

/-- Reads a template file. -/
def read (folder : Folder) (path : Text) : Except Error Text :=
  (folder.content path).mapError fun fault => .unreadable path fault

end Folder

end Templating
