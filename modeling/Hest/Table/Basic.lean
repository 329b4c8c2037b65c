import Hest.Act
import Hest.Header.Description
import Hest.Status

/-!
# The error source table

Blocks of error source descriptors are gathered into one table, which is handed to a publisher
exactly once.

A table is empty, or it holds descriptors, or it was published and holds nothing any more.  What it
would be published as follows from its identity and its descriptors (`Contents.bytes`): the header
with the true length and number of descriptors, then the descriptors.  Only the bytes offered to a
publisher carry the checksum (`Contents.stamped`), so a refused table is as it was.

* `extend` is the rule for appending a block: all of it or nothing.
* `append` and `install` are the actions, with what they report.

`TableError` says why the table refuses descriptors or is not published, and which status a caller
gets who knows only status codes.
-/

namespace Hest

/-! ## Errors -/

/-- Why appending to the table or publishing it fails. -/
inductive TableError where
  /-- No descriptor bytes, fewer bytes than declared, or too many descriptors for the table. -/
  | invalidArgument
  /-- The table would be too long. -/
  | outOfMemory
  /-- The table was published before. -/
  | alreadyInstalled
  /-- The publisher refused the table. -/
  | install (status : Status)
deriving DecidableEq

namespace TableError

/-- The wording of an error. -/
def message : TableError → String
  | invalidArgument => "Invalid error source descriptors"
  | outOfMemory => "Out of memory while growing the HEST"
  | alreadyInstalled => "The HEST has already been installed"
  | install status => s!"Failed to install the HEST: {status.text}"

/-- The status that stands for an error. -/
def status : TableError → Status
  | invalidArgument => .invalidParameter
  | outOfMemory => .outOfResources
  | alreadyInstalled => .alreadyStarted
  | install status => status

end TableError

/-! ## Contents -/

/-- The descriptors gathered so far: their bytes one after another, and their number. -/
structure Contents where
  descriptors : Bytes
  count : UInt32
  /-- The length of the table fits its header. -/
  length_lt : 40 + descriptors.length < UInt32.size

namespace Contents

/-- The header of the table, without a checksum. -/
def header (c : Contents) (identity : Identity) : ErrorSourceHeader :=
  let blank := ErrorSourceHeader.new identity
  { description := { blank.description with length := .ofNat (40 + c.descriptors.length) }
    sourceCount := c.count }

/-- The table, without a checksum. -/
def bytes (c : Contents) (identity : Identity) : Bytes :=
  (c.header identity).encode ++ c.descriptors

/-- The table with its checksum. -/
def stamped (c : Contents) (identity : Identity) : Bytes :=
  let checksum := Checksum.complement (c.bytes identity)
  let h := c.header identity
  { h with description := { h.description with checksum } }.encode ++ c.descriptors

end Contents

/-- How far a table is. -/
inductive Phase where
  /-- No descriptors were accepted yet. -/
  | empty
  /-- The table holds descriptors. -/
  | building (contents : Contents)
  /-- The table was published. -/
  | installed

/-- An error source table with the identity that it is published under. -/
structure Table where
  identity : Identity
  phase : Phase := .empty

/-- What a publisher names a published table by. -/
structure TableKey where
  number : Nat
deriving DecidableEq

namespace Table

/-! ## What a table shows -/

/-- The descriptors gathered so far, none for a table that was published. -/
def descriptors (t : Table) : Bytes :=
  match t.phase with
  | .building c => c.descriptors
  | _ => []

/-- The number of descriptors gathered so far, zero for a table that was published. -/
def sourceCount (t : Table) : UInt32 :=
  match t.phase with
  | .building c => c.count
  | _ => 0

/-- The table as it stands; no bytes without descriptors. -/
def bytes (t : Table) : Bytes :=
  match t.phase with
  | .building c => c.bytes t.identity
  | _ => []

/-- The length of the table as it stands. -/
def length (t : Table) : Nat := t.bytes.length

/-- Whether the table as it stands has no bytes. -/
def isEmpty (t : Table) : Bool := t.length == 0

/-- Whether there is a table to publish. -/
def isBuilt (t : Table) : Bool :=
  match t.phase with
  | .building _ => true
  | _ => false

/-- Whether the table was published. -/
def isInstalled (t : Table) : Bool :=
  match t.phase with
  | .installed => true
  | _ => false

/-! ## Appending -/

/-- Whether a block has `length` bytes to append. -/
def usable (block : Bytes) (length : Nat) : Bool :=
  !block.isEmpty && length != 0 && length ≤ block.length

/-- The table with `count` more descriptors, the first `length` bytes of `block`. -/
def extend (t : Table) (block : Bytes) (length count : Nat) : Except TableError Table :=
  if !usable block length then .error .invalidArgument
  else match t.phase with
  | .installed => .error .alreadyInstalled
  | .empty | .building _ =>
    if h : 40 + (t.descriptors ++ block.take length).length < UInt32.size then
      if t.sourceCount.toNat + count < UInt32.size then
        .ok { t with
          phase := .building ⟨t.descriptors ++ block.take length,
            .ofNat (t.sourceCount.toNat + count), h⟩ }
      else .error .invalidArgument
    else .error .outOfMemory

/-- Appends `count` descriptors, the first `length` bytes of `block`. -/
def append (block : Bytes) (length count : Nat) : Act Table (Except TableError Unit) := do
  let t ← Act.get
  match t.extend block length count with
  | .error e =>
    if !usable block length then
      .say .error .table
        s!"Rejecting {length} bytes of error source descriptors from a {block.length} byte buffer"
    return .error e
  | .ok grown =>
    Act.set grown
    if !t.isBuilt then .say .debug .table "Created HEST header"
    .say .info .table
      (s!"Added {count} error source descriptor(s), {length} bytes; " ++
        s!"HEST now holds {grown.sourceCount.toNat} in {grown.length} bytes")
    return .ok ()

/-! ## Publishing -/

/-- A publisher takes the bytes of a table and gives its key, or refuses with a status. -/
abbrev Publisher (ω : Type) := Bytes → Act ω (Except Status TableKey)

/-- Hands the table to a publisher, if it holds descriptors. -/
def install {ω : Type} (publish : Publisher ω) :
    Act (Table × ω) (Except TableError (Option TableKey)) := do
  let t ← Act.onFirst Act.get
  match t.phase with
  | .empty =>
    .say .info .table "No error source descriptors were added; HEST not installed"
    return .ok none
  | .installed => return .error .alreadyInstalled
  | .building c =>
    match ← Act.onSecond (publish (c.stamped t.identity)) with
    | .ok key =>
      .say .info .table s!"HEST installed ({t.length} bytes, key {key.number})"
      Act.onFirst (.set { t with phase := .installed })
      return .ok (some key)
    | .error status =>
      .say .error .table s!"Failed to install the HEST: {status.text}"
      return .error (.install status)

end Table

end Hest
