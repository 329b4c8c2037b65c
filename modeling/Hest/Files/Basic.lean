import Hest.Act
import Hest.Bytes

/-!
# Files

The two things that the program does with files: it reads whole files and writes whole files.
`Files ω` is any way to do both that works on a state of type `ω`; a file tree is one
(`Hest.Files.Tree`).
-/

namespace Hest

/-- Why a file cannot be read or written. -/
inductive FileError where
  | notFound
  | notDirectory
  | isDirectory
  | nameTooLong
  /-- The path holds a character that no path can hold. -/
  | invalidPath
  /-- Any other reason, by the number and the text that the system gives it. -/
  | other (code : Nat) (text : String)
deriving DecidableEq

/-- The wording of an error. -/
def FileError.message : FileError → String
  | notFound => "No such file or directory (os error 2)"
  | notDirectory => "Not a directory (os error 20)"
  | isDirectory => "Is a directory (os error 21)"
  | nameTooLong => "File name too long (os error 36)"
  | invalidPath => "file name contained an unexpected NUL byte"
  | other code text => s!"{text} (os error {code})"

/-- A way to read and write whole files. -/
structure Files (ω : Type) where
  read : (path : String) → Act ω (Except FileError Bytes)
  write : (path : String) → Bytes → Act ω (Except FileError Unit)

end Hest
