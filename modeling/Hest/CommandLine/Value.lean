import Hest.Text.Numeral
import Hest.Text.Quoted

/-!
# The values of options

A descriptor file is a path, with a number of descriptors after the last `@` of the text.  A generic
source is a number of 16 bits and an address, on either side of the first `@`.
-/

namespace Hest.CommandLine

/-- Why a text is no value of its option. -/
inductive ValueError where
  /-- Not a number. -/
  | number (text : List Char) (why : Text.NumeralError)
  /-- Not a number of descriptors. -/
  | descriptorCount (text : List Char) (why : Text.NumeralError)
  /-- Nothing before the last `@`. -/
  | missingFileName (text : List Char)
  /-- No `@` between source and address. -/
  | missingAddress (text : List Char)
  /-- A source number of more than 16 bits. -/
  | sourceIdTooLarge (text : List Char)
  /-- A number of more than 32 bits. -/
  | tooLarge (text : List Char)
deriving DecidableEq

/-- The wording of an error. -/
def ValueError.message : ValueError → String
  | number text why => s!"invalid number {Text.quoted (.ofList text)}: {why.message}"
  | descriptorCount text why =>
    s!"invalid descriptor count {Text.quoted (.ofList text)}: {why.message}"
  | missingFileName text => s!"missing file name in {Text.quoted (.ofList text)}"
  | missingAddress text =>
    s!"expected SOURCE_ID@STATUS_ADDR, got {Text.quoted (.ofList text)}"
  | sourceIdTooLarge text => s!"source ID {String.ofList text} exceeds 16 bits"
  | tooLarge text => s!"{String.ofList text} exceeds 32 bits"

/-- The parts of a text before and after the first `mark`. -/
def splitFirst? (mark : Char) : (s : List Char) → Option (List Char × List Char)
  | [] => none
  | c :: cs =>
    if c = mark then some ([], cs)
    else (splitFirst? mark cs).map fun p => (c :: p.1, p.2)

/-- The parts of a text before and after the last `mark`. -/
def splitLast? (mark : Char) : (s : List Char) → Option (List Char × List Char)
  | [] => none
  | c :: cs =>
    match splitLast? mark cs with
    | some p => some (c :: p.1, p.2)
    | none => if c = mark then some ([], cs) else none

/-- A number of at most 64 bits. -/
def readNumber (s : List Char) : Except ValueError Nat :=
  (Text.number s).mapError (.number s)

/-- A number of at most 32 bits. -/
def readWord (s : List Char) : Except ValueError UInt32 := do
  let n ← readNumber s
  if n < UInt32.size then return .ofNat n else .error (.tooLarge s)

/-- A file of descriptors, and how many it holds. -/
structure DescriptorFile where
  path : String
  count : Nat
deriving DecidableEq

/-- A descriptor file as it is written on the command line. -/
def DescriptorFile.read (s : List Char) : Except ValueError DescriptorFile :=
  match splitLast? '@' s with
  | none => .ok ⟨.ofList s, 1⟩
  | some ([], _) => .error (.missingFileName s)
  | some (path, count) => do
    let n ← (Text.numeral 10 count).mapError (.descriptorCount count)
    return ⟨.ofList path, n⟩

/-- A generic source: its number, and where its error status is. -/
structure SourceEntry where
  sourceId : UInt16
  statusAddress : UInt64
deriving DecidableEq

namespace SourceEntry

/-- A generic source as it is written on the command line. -/
def read (s : List Char) : Except ValueError SourceEntry :=
  match splitFirst? '@' s with
  | none => .error (.missingAddress s)
  | some (id, address) => do
    let n ← readNumber id
    if n < UInt16.size then
      let a ← readNumber address
      return ⟨.ofNat n, .ofNat a⟩
    else .error (.sourceIdTooLarge id)

/-- The register that acknowledges a read: the eight bytes after the status address, if there are
such. -/
def readAckAddress? (e : SourceEntry) : Option UInt64 :=
  if e.statusAddress.toNat + 8 < UInt64.size then some (e.statusAddress + 8) else none

end SourceEntry

end Hest.CommandLine
