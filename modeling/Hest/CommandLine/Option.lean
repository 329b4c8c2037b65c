/-!
# The options

What the program can be told: for each option its names, the name of its value, if it takes one,
whether it may be given several times, and what it is for.

How the program is called is shown in one line, for all options or for those that were used.  The
help lists all options with what they are for.
-/

namespace Hest.CommandLine

/-! ## Options -/

/-- The options, in the order in which they are listed. -/
inductive Opt where
  | output
  | descriptors
  | ghes
  | oemId
  | oemTableId
  | oemRevision
  | verbose
  | help
deriving DecidableEq

namespace Opt

/-- All options, in the order in which they are listed. -/
def all : List Opt :=
  [output, descriptors, ghes, oemId, oemTableId, oemRevision, verbose, help]

/-- The long name. -/
def long : Opt → String
  | output => "output"
  | descriptors => "descriptors"
  | ghes => "ghes"
  | oemId => "oem-id"
  | oemTableId => "oem-table-id"
  | oemRevision => "oem-revision"
  | verbose => "verbose"
  | help => "help"

/-- The short name. -/
def short? : Opt → Option Char
  | output => some 'o'
  | descriptors => some 'd'
  | verbose => some 'v'
  | help => some 'h'
  | _ => none

/-- The name of the value of an option that takes one. -/
def value? : Opt → Option String
  | output => some "OUTPUT"
  | descriptors => some "FILE[@COUNT]"
  | ghes => some "SOURCE_ID@STATUS_ADDR"
  | oemId => some "OEM_ID"
  | oemTableId => some "OEM_TABLE_ID"
  | oemRevision => some "OEM_REVISION"
  | verbose => none
  | help => none

/-- What the option is for. -/
def purpose : Opt → String
  | output => "File the finished table is written to"
  | descriptors => "Descriptor blob registered as one MM producer; COUNT defaults to 1"
  | ghes =>
    "GHESv2 error source with SEA notification; its read-ack register follows the status address"
  | oemId => "OEM ID, at most 6 ASCII characters"
  | oemTableId => "OEM table ID, at most 8 ASCII characters"
  | oemRevision => "OEM revision"
  | verbose => "Log pass-level detail"
  | help => "Print help"

/-- Whether the option takes a value. -/
def takesValue (o : Opt) : Bool := o.value?.isSome

/-- Whether the option may be given several times. -/
def repeatable (o : Opt) : Bool := o = descriptors || o = ghes

/-- Whether the option must be given. -/
def required (o : Opt) : Bool := o = output

/-- The option as messages show it: its long name, with the name of its value. -/
def text (o : Opt) : String :=
  match o.value? with
  | some v => s!"--{o.long} <{v}>"
  | none => s!"--{o.long}"

/-- The option of a long name. -/
def ofLong? (name : String) : Option Opt := all.find? (·.long == name)

/-- The option of a short name. -/
def ofShort? (c : Char) : Option Opt := all.find? (·.short? == some c)

end Opt

/-! ## Usage and help -/

/-- The name of the program. -/
def programName : String := "hest-builder"

/-- What the program is for. -/
def about : String := "Assemble a HEST from error source descriptor blobs"

/-- How the program is called with any options. -/
def usage : String := s!"Usage: {programName} [OPTIONS] {Opt.output.text}"

/-- How the program is called with the options that were used, each once, and those that must be;
with any options if none was used. -/
def usageOf (used : List Opt) : String :=
  if used.isEmpty then usage
  else
    let shown := Opt.output :: (used.filter fun o => !o.required).eraseDups
    s!"Usage: {programName} " ++ " ".intercalate (shown.map Opt.text)

/-- The options other than the help, as a choice. -/
def choice : String :=
  let shown := "|".intercalate ((Opt.all.filter (· ≠ .help)).map Opt.text)
  s!"<{shown}>"

/-- How the program is called with an option that takes no value, after the options `used`.  Where
others were used, the usage does not tell them apart: it offers all but the help, which is named
only if it is the option itself. -/
def usageWithFlag (used : List Opt) (o : Opt) : String :=
  if used.isEmpty then usageOf [o]
  else
    let shown := if o = .help then [o.text, choice] else [choice]
    s!"Usage: {programName} " ++ " ".intercalate shown

/-- The names of an option as the help lists them. -/
def names (o : Opt) : String :=
  match o.short? with
  | some c => s!"  -{c}, {o.text}"
  | none => s!"      {o.text}"

/-- The help: what the program is for, how it is called, and its options in two columns. -/
def help : String :=
  let width := (Opt.all.map fun o => (names o).length).foldl max 0 + 2
  let line (o : Opt) : String :=
    names o ++ String.ofList (List.replicate (width - (names o).length) ' ') ++ o.purpose ++ "\n"
  s!"{about}\n\n{usage}\n\nOptions:\n" ++ String.join (Opt.all.map line)

end Hest.CommandLine
