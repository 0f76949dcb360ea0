/-
# The log directory

The entries of one directory, by name, and the operations on files that a rotating log needs.  An
operation that is refused changes nothing.
-/
import SqlGateway.FileFault

namespace SqlGateway.Log

/-- What a name stands for. -/
inductive Entry where
  | file (content : List UInt8)
  | directory
deriving DecidableEq, Repr

/-- The entries of a directory; no name stands twice. -/
abbrev Directory := List (String × Entry)

namespace Directory

/-- The content of the file of the given name. -/
def content? (d : Directory) (name : String) : Option (List UInt8) :=
  match d.lookup name with
  | some (.file content) => some content
  | _ => none

/-- The directory with a file of the given name and content, in place of any file of that name. -/
def put (d : Directory) (name : String) (content : List UInt8) : Directory :=
  match d with
  | [] => [(name, .file content)]
  | (n, e) :: rest =>
    if n = name then (n, .file content) :: rest else (n, e) :: put rest name content

/-- The directory without the entry of the given name. -/
def drop (d : Directory) (name : String) : Directory := d.filter (·.1 != name)

/-- Opens a file for appending; a file that is not there is created. -/
def openFile (d : Directory) (name : String) : Except FileFault Directory :=
  match d.lookup name with
  | some .directory => .error .isDirectory
  | some (.file _) => .ok d
  | none => .ok (d.put name [])

/-- Appends to a file. -/
def append (d : Directory) (name : String) (bytes : List UInt8) : Directory :=
  match d.content? name with
  | some content => d.put name (content ++ bytes)
  | none => d

/-- Gives a file another name; a file that had that name is lost. -/
def rename (d : Directory) (old new : String) : Except FileFault Directory :=
  match d.lookup old, d.lookup new with
  | none, _ => .error .notFound
  | some .directory, _ => .error .isDirectory
  | some (.file _), some .directory => .error .isDirectory
  | some (.file content), _ => .ok ((d.drop old).put new content)

/-- Deletes a file. -/
def remove (d : Directory) (name : String) : Except FileFault Directory :=
  match d.lookup name with
  | none => .error .notFound
  | some .directory => .error .isDirectory
  | some (.file _) => .ok (d.drop name)

end Directory

end SqlGateway.Log
