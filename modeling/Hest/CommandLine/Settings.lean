import Hest.CommandLine.Option
import Hest.CommandLine.Value

/-!
# Settings

What the program was told.  While the command line is read, the path of the table may still be
missing (`Draft`).
-/

namespace Hest.CommandLine

/-- What the program was told. -/
structure Settings where
  output : String
  descriptors : List DescriptorFile := []
  sources : List SourceEntry := []
  oemId : Option String := none
  oemTableId : Option String := none
  oemRevision : Option UInt32 := none
  verbose : Bool := false
deriving DecidableEq

/-- Settings of which the path of the table may be missing. -/
structure Draft where
  output : Option String := none
  rest : Settings := { output := "" }

/-- Why a value of an option is refused. -/
inductive Refusal where
  /-- The value is empty. -/
  | empty
  /-- The value is not well formed. -/
  | malformed (why : ValueError)
deriving DecidableEq

namespace Draft

/-- Gives an option its value. -/
def take (d : Draft) (o : Opt) (value : String) : Except Refusal Draft :=
  let malformed {α : Type} (r : Except ValueError α) (f : α → Settings) : Except Refusal Draft :=
    (r.map fun a => { d with rest := f a }).mapError .malformed
  match o with
  | .output => if value.isEmpty then .error .empty else .ok { d with output := some value }
  | .descriptors =>
    malformed (DescriptorFile.read value.toList) fun f =>
      { d.rest with descriptors := d.rest.descriptors ++ [f] }
  | .ghes =>
    malformed (SourceEntry.read value.toList) fun e =>
      { d.rest with sources := d.rest.sources ++ [e] }
  | .oemId => .ok { d with rest.oemId := some value }
  | .oemTableId => .ok { d with rest.oemTableId := some value }
  | .oemRevision =>
    malformed (readWord value.toList) fun n => { d.rest with oemRevision := some n }
  | .verbose | .help => .ok d

/-- Sets an option that takes no value. -/
def flag (d : Draft) (o : Opt) : Draft :=
  if o = .verbose then { d with rest.verbose := true } else d

/-- The settings, if none is missing. -/
def settings? (d : Draft) : Option Settings := d.output.map fun p => { d.rest with output := p }

end Draft

end Hest.CommandLine
