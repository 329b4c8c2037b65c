import Hest.CommandLine.Error
import Hest.CommandLine.Settings
import Hest.Text.Similarity

/-!
# Reading a command line

Arguments are read from left to right.  `--name` and `-n` name options, `--name=value`, `-nvalue`
and `-n=value` give them their values at once; otherwise the next argument is the value, unless it
looks like an option itself.  Short options without values can share one dash.  After `--` there are
no options, and everything else is unknown.

An option whose value is the next argument is settled, that is checked and taken, only when the
following option is met, or at the end.  So of two errors the one that is met first wins, except
that an unknown argument wins over an option that is not settled yet.
-/

namespace Hest.CommandLine

/-- What one argument looks like. -/
inductive Token where
  /-- `--`. -/
  | separator
  /-- `--name`, or `--name=value`. -/
  | long (name : String) (value : Option String)
  /-- `-abc`. -/
  | shorts (names : List Char)
  /-- Anything else. -/
  | plain (text : String)

/-- What an argument looks like. -/
def Token.ofString (s : String) : Token :=
  match s.toList with
  | ['-', '-'] => .separator
  | '-' :: '-' :: rest =>
    let name := rest.takeWhile (· ≠ '=')
    let value := match rest.dropWhile (· ≠ '=') with
      | _ :: v => some (String.ofList v)
      | [] => none
    .long (.ofList name) value
  | '-' :: c :: cs => .shorts (c :: cs)
  | _ => .plain s

/-- How far the reading is: the settings so far, the options that were settled in the order of their
first use, and the option that is not settled yet, with its value if that was met. -/
structure Reading where
  draft : Draft := {}
  used : List Opt := []
  pending : Option (Opt × Option String) := none

namespace Reading

/-- Checks an option with its value and takes it.  An option that was given before is refused first,
and then no longer counts as used. -/
def take (r : Reading) (o : Opt) (value : String) : Reading × Option UsageError :=
  if r.used.contains o && !o.repeatable then
    ({ r with used := r.used.erase o }, some (.repeated o))
  else
    let used := if r.used.contains o then r.used else r.used ++ [o]
    match r.draft.take o value with
    | .ok draft => ({ r with draft, used }, none)
    | .error .empty => ({ r with used }, some (.valueRequired o))
    | .error (.malformed why) => ({ r with used }, some (.invalidValue o value why))

/-- Settles the option that is not settled yet. -/
def settle (r : Reading) : Reading × Option UsageError :=
  match r.pending with
  | none => (r, none)
  | some (o, none) => ({ r with pending := none }, some (.valueRequired o))
  | some (o, some value) => ({ r with pending := none }).take o value

/-- Goes on with a step that was not refused. -/
def orRefuse : Reading × Option UsageError → Except UsageError Reading
  | (r, none) => .ok r
  | (_, some e) => .error e

/-- Meets an option that takes no value. -/
def meetFlag (r : Reading) (o : Opt) : Except UsageError Reading := do
  let r ← orRefuse r.settle
  if o = .help then .error .helpRequested
  else if r.used.contains o then .error (.repeated o)
  else return { r with draft := r.draft.flag o, used := r.used ++ [o] }

/-- Meets an option with its value in the same argument. -/
def meetWithValue (r : Reading) (o : Opt) (value : String) : Except UsageError Reading := do
  let r ← orRefuse r.settle
  orRefuse (r.take o value)

/-- Meets an option whose value is the next argument. -/
def meetBare (r : Reading) (o : Opt) : Except UsageError Reading := do
  let r ← orRefuse r.settle
  return { r with pending := some (o, none) }

/-- Meets a long option. -/
def meetLong (r : Reading) (name : String) (value : Option String) : Except UsageError Reading :=
  match Opt.ofLong? name, value with
  | none, _ =>
    .error (.unknownArgument s!"--{name}" (Text.nearest? Opt.long Opt.all name) r.settle.1.used)
  | some o, some v =>
    if o.takesValue then r.meetWithValue o v else .error (.unexpectedValue o v r.used)
  | some o, none => if o.takesValue then r.meetBare o else r.meetFlag o

/-- Meets short options that share one dash; the first that takes a value takes the rest as its
value, after an equals sign if there is one. -/
def meetShorts (r : Reading) : List Char → Except UsageError Reading
  | [] => .ok r
  | c :: cs =>
    match Opt.ofShort? c with
    | none => .error (.unknownArgument (.ofList ['-', c]) none [])
    | some o =>
      if o.takesValue then
        match cs with
        | [] => r.meetBare o
        | '=' :: v => r.meetWithValue o (.ofList v)
        | v => r.meetWithValue o (.ofList v)
      else do (← r.meetFlag o).meetShorts cs

/-- Meets an argument that is no option: the value of the option before it, or unknown. -/
def meetPlain (r : Reading) (text : String) : Except UsageError Reading :=
  match r.pending with
  | some (o, none) => .ok { r with pending := some (o, some text) }
  | _ => .error (.unknownArgument text none [])

/-- Ends the reading. -/
def finish (r : Reading) : Except UsageError Settings := do
  let r ← orRefuse r.settle
  match r.draft.settings? with
  | some s => return s
  | none => .error (.missingOutput r.used)

/-- Reads arguments. -/
def read (r : Reading) : List String → Except UsageError Settings
  | [] => r.finish
  | a :: rest =>
    match Token.ofString a with
    | .separator =>
      match rest with
      | [] => r.finish
      | next :: _ => .error (.unknownArgument next none [])
    | .long name value => do (← r.meetLong name value).read rest
    | .shorts names => do (← r.meetShorts names).read rest
    | .plain text => do (← r.meetPlain text).read rest

end Reading

/-- The settings that the arguments of a command line give. -/
def read (arguments : List String) : Except UsageError Settings :=
  ({} : Reading).read arguments

end Hest.CommandLine
