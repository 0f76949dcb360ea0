/-
# File faults

Why an operation, mostly one on a file, is refused, in the words and with the numbers of the
operating system.
-/
namespace SqlGateway

/-- Why an operation is refused. -/
inductive FileFault where
  | notFound
  | alreadyExists
  | notADirectory
  | isDirectory
  /-- What is asked for, such as a port, is kept for the system. -/
  | notPermitted
  /-- The content should be text and is not UTF-8. -/
  | notText
deriving DecidableEq, Repr

/-- The wording of a fault. -/
def FileFault.message : FileFault → String
  | notFound => "No such file or directory (os error 2)"
  | alreadyExists => "File exists (os error 17)"
  | notADirectory => "Not a directory (os error 20)"
  | notPermitted => "Permission denied (os error 13)"
  | isDirectory => "Is a directory (os error 21)"
  | notText => "stream did not contain valid UTF-8"

end SqlGateway
