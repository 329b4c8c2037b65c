import Hest.CommandLine.Option
import Hest.CommandLine.Value
import Hest.Text.Plain

/-!
# Command line errors

Why a command line is not run.  A request for help is one of them: it ends the program too, but
successfully and on the standard output.

Messages are for no terminal, so what they quote of the command line is made plain (`Text.plain`):
one way in the text of the error, another way where the program prints it.  They end with the usage
where another call of the program would mend the error, and not where another value would.
-/

namespace Hest.CommandLine

/-- Why a command line is not run. -/
inductive UsageError where
  /-- An option without its value. -/
  | valueRequired (option : Opt)
  /-- A value that is not well formed. -/
  | invalidValue (option : Opt) (value : String) (why : ValueError)
  /-- An option given twice. -/
  | repeated (option : Opt)
  /-- A value for an option that takes none, after the options `used`. -/
  | unexpectedValue (option : Opt) (value : String) (used : List Opt)
  /-- An argument that is no option, after the options `used`, and the option it may stand for. -/
  | unknownArgument (shown : String) (similar : Option Opt) (used : List Opt)
  /-- No path for the table. -/
  | missingOutput (used : List Opt)
  /-- A request for help. -/
  | helpRequested
deriving DecidableEq

namespace UsageError

/-- What is wrong, without the usage, with what it quotes of the command line made `plain`. -/
def complaint (plain : String → String) : UsageError → String
  | valueRequired o => s!"a value is required for '{o.text}' but none was supplied"
  | invalidValue o value why => s!"invalid value '{plain value}' for '{o.text}': {why.message}"
  | repeated o => s!"the argument '{o.text}' cannot be used multiple times"
  | unexpectedValue o value _ =>
    s!"unexpected value '{plain value}' for '{o.text}' found; no more were expected"
  | unknownArgument shown similar _ =>
    let complaint := s!"unexpected argument '{plain shown}' found"
    match similar with
    | some o => s!"{complaint}\n\n  tip: a similar argument exists: '--{o.long}'"
    | none => complaint
  | missingOutput _ =>
    s!"the following required arguments were not provided:\n  {Opt.output.text}"
  | helpRequested => ""

/-- The usage that an error shows. -/
def usage? : UsageError → Option String
  | valueRequired _ | invalidValue .. | helpRequested => none
  | repeated _ => some usage
  | unexpectedValue o _ used => some (usageWithFlag used o)
  | unknownArgument _ similar used => some (usageOf (used ++ similar.toList))
  | missingOutput used => some (usageOf (.output :: used))

/-- All that there is to tell, with what it quotes of the command line made `plain`. -/
def report (plain : String → String) : UsageError → String
  | helpRequested => help
  | e =>
    let shown := match e.usage? with
      | some u => s!"{u}\n\n"
      | none => ""
    s!"error: {e.complaint plain}\n\n{shown}For more information, try '--help'.\n"

/-- The text of an error. -/
def message (e : UsageError) : String := e.report (Text.plain false)

/-- What the program prints. -/
def printed (e : UsageError) : String := e.report (Text.plain true)

/-- The exit code of the program. -/
def exitCode : UsageError → Nat
  | helpRequested => 0
  | _ => 2

/-- Whether the text is for the standard output. -/
def toOutput : UsageError → Bool
  | helpRequested => true
  | _ => false

end UsageError

end Hest.CommandLine
