import Hest.Build
import Hest.CommandLine.Reading

/-!
# The program

The program reads its command line, builds the table that it asks for, and shows on the standard
error output what was logged, up to the level that the command line asks for.  A build that fails
ends with a record of the failure.
-/

namespace Hest

/-- What a run of the program leaves, apart from files. -/
structure Finished where
  exitCode : Nat
  output : String
  errors : String
deriving DecidableEq

namespace Program

variable {ω : Type}

/-- The level of detail that is shown. -/
def level (s : CommandLine.Settings) : Log.Level := if s.verbose then .trace else .info

/-- The lines that show records up to a level. -/
def shown (level : Log.Level) (log : List Log.Record) : String :=
  String.join ((log.filter (·.shownAt level)).map fun r => r.text ++ "\n")

/-- Builds a table and gives the exit code. -/
def execute (files : Files ω) (s : CommandLine.Settings) : Act ω Nat := do
  match ← build files s with
  | .ok _ => return 0
  | .error e =>
    .say .error .builder e.message
    return 1

end Program

/-- Runs the program with the arguments of its command line. -/
def runProgram {ω : Type} (files : Files ω) (arguments : List String) (w : ω) : Finished × ω :=
  match CommandLine.read arguments with
  | .error e =>
    if e.toOutput then (⟨e.exitCode, e.printed, ""⟩, w) else (⟨e.exitCode, "", e.printed⟩, w)
  | .ok s =>
    let e := Program.execute files s w
    (⟨e.value, "", Program.shown (Program.level s) e.log⟩, e.state)

end Hest
