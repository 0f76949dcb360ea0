/-
# Configuration files

A configuration is kept in a file, and a file may be unreadable before its content can be wrong.
-/
import SqlGateway.Config.Document
import SqlGateway.FileFault
import SqlGateway.Text.Utf8

namespace SqlGateway.Config

/-- Why no configuration can be loaded from a file. -/
inductive FileError where
  | unreadable (f : FileFault)
  | refused (e : Error)
deriving DecidableEq, Repr

/-- The code of an error. -/
def FileError.code : FileError → String
  | unreadable _ => "IO_ERROR"
  | refused e => e.code

/-- The wording of an error. -/
def FileError.message : FileError → String
  | unreadable f => "IO error: " ++ f.message
  | refused e => e.message

/-- The configuration in a file, given what reading it yields. -/
def ofFile (content : Except FileFault (List UInt8)) : Except FileError Config :=
  match content with
  | .error f => .error (.unreadable f)
  | .ok bytes =>
    match Text.Utf8.decode? bytes with
    | none => .error (.unreadable .notText)
    | some yaml => (Config.ofYaml yaml).mapError .refused

end SqlGateway.Config
