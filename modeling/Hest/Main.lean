import Hest.Program

/-!
# The command

Runs the program on the files of the system.  The descriptor files are read before the program runs.
What the program reports depends on whether its table can be written, so it runs twice if it writes
one: first to learn which, then with the verdict of the system.
-/

namespace Hest.Main

/-- The files that were read, the verdict on writing, and what was written. -/
structure Disk where
  readings : List (String × Except FileError Bytes)
  verdict : Except FileError Unit := .ok ()
  written : Option (String × Bytes) := none

/-- The files of a disk. -/
def files : Files Disk where
  read path := do return ((← Act.get).readings.lookup path).getD (.error .notFound)
  write path content := do
    let disk ← Act.get
    Act.set { disk with written := some (path, content) }
    return disk.verdict

/-- The number of a system error; some calls report it as a negative number of 32 bits. -/
def errorNumber (code : UInt32) : Nat :=
  if code.toNat < 0x80000000 then code.toNat else UInt32.size - code.toNat

/-- The number and the text that the system gives an error. -/
def systemError : IO.Error → Nat × String
  | .alreadyExists _ c t | .interrupted _ c t | .noFileOrDirectory _ c t
  | .invalidArgument _ c t | .permissionDenied _ c t | .resourceExhausted _ c t
  | .inappropriateType _ c t | .noSuchThing _ c t | .otherError c t | .resourceBusy c t
  | .resourceVanished c t | .unsupportedOperation c t | .hardwareFault c t
  | .unsatisfiedConstraints c t | .illegalOperation c t | .protocolError c t
  | .timeExpired c t => (errorNumber c, t)
  | .unexpectedEof => (0, "unexpected end of file")
  | .userError t => (0, t)

/-- A file error of the system. -/
def fileError (e : IO.Error) : FileError :=
  match systemError e with
  | (2, _) => .notFound
  | (20, _) => .notDirectory
  | (21, _) => .isDirectory
  | (36, _) => .nameTooLong
  | (code, text) => .other code text

/-- Does something with a file, or gives the reason why it cannot be done. -/
def attempt {α : Type} (x : IO α) : IO (Except FileError α) := do
  try return .ok (← x) catch e => return .error (fileError e)

/-- Reads a file. -/
def readFile (path : String) : IO (Except FileError Bytes) := do
  return (← attempt (IO.FS.readBinFile path)).map fun content => content.toList

/-- The paths that a command line asks to read. -/
def pathsToRead (arguments : List String) : List String :=
  match CommandLine.read arguments with
  | .ok s => s.descriptors.map (·.path)
  | .error _ => []

end Hest.Main

open Hest Hest.Main in
/-- Runs the program on the files of the system. -/
def main (arguments : List String) : IO UInt32 := do
  let readings ← (pathsToRead arguments).mapM fun path => do return (path, ← readFile path)
  let disk : Disk := { readings }
  let (finished, after) := runProgram files arguments disk
  let finished ← match after.written with
    | none => pure finished
    | some (path, content) =>
      let verdict ← attempt (IO.FS.writeBinFile path ⟨content.toArray⟩)
      pure (runProgram files arguments { disk with verdict }).1
  (← IO.getStdout).putStr finished.output
  (← IO.getStderr).putStr finished.errors
  return .ofNat finished.exitCode
