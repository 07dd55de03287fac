import Lookup.Text.Quoted

/-!
# Errors of the file system

## Main definitions

* `Errno` — why the file system refuses an operation
* `SystemError` — a refused operation on a path, or another error of the system
-/

namespace Lookup.Files

/-- Why the file system refuses an operation. -/
inductive Errno where
  /-- A component of the path does not exist. -/
  | noEntry
  /-- A component of the path that should be a directory is none. -/
  | notDirectory
  /-- The path is a directory where a file is wanted. -/
  | isDirectory
  /-- The path or one of its components is too long. -/
  | nameTooLong
  /-- Too many symbolic links on the way. -/
  | loop
  deriving DecidableEq, Repr

/-- The number of an error. -/
def Errno.number : Errno → Nat
  | .noEntry => 2
  | .notDirectory => 20
  | .isDirectory => 21
  | .nameTooLong => 36
  | .loop => 40

/-- The wording of an error. -/
def Errno.wording : Errno → String
  | .noEntry => "No such file or directory"
  | .notDirectory => "Not a directory"
  | .isDirectory => "Is a directory"
  | .nameTooLong => "File name too long"
  | .loop => "Too many levels of symbolic links"

/-- An error of the system. -/
inductive SystemError where
  /-- An operation on a path was refused. -/
  | refused (errno : Errno) (path : String)
  /-- An error that comes with its own wording. -/
  | other (text : String)
  deriving DecidableEq, Repr

/-- The text of a system error. -/
def SystemError.message : SystemError → String
  | .refused errno path =>
    "[Errno " ++ String.ofList (Nat.toDigits 10 errno.number) ++ "] " ++ errno.wording ++ ": " ++
      Text.quote path
  | .other text => text

end Lookup.Files
