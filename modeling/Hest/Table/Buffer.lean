import Hest.Table.Basic

/-!
# The error source table in a buffer

A table kept as the bytes that are published: one buffer, which begins with the header and grows at
its end.  The header is made with the first block.  From then on it is written over in place: the
length of the table and the number of descriptors with every block, and the checksum when the table
is offered.  A publisher that refuses the table makes it lose the checksum again.

The number of descriptors is kept nowhere else, it is read from the buffer (`sourceCount`).

`append` and `install` are the actions of a `Table`, whose bytes are made afresh from its
descriptors each time.
-/

namespace Hest

/-- How far a buffer is. -/
inductive BufferState where
  /-- There is no buffer yet. -/
  | empty
  /-- The buffer holds a header and descriptors. -/
  | building (buffer : Bytes)
  /-- The buffer was published, and is gone. -/
  | installed

/-- An error source table in a buffer, with the identity that its header is made with. -/
structure TableBuffer where
  identity : Identity
  state : BufferState := .empty

namespace TableBuffer

open Table (usable Publisher)

variable {ω : Type}

/-! ## What a buffer shows -/

/-- The bytes in the buffer, none if there is no buffer. -/
def bytes (t : TableBuffer) : Bytes :=
  match t.state with
  | .building buffer => buffer
  | _ => []

/-- The number of descriptors, as the header says; zero without a header. -/
def sourceCount (t : TableBuffer) : UInt32 :=
  match ErrorSourceHeader.readFrom t.bytes with
  | .ok h => h.sourceCount
  | .error _ => 0

/-- The length of the buffer. -/
def length (t : TableBuffer) : Nat := t.bytes.length

/-- Whether there is a buffer to publish. -/
def isBuilt (t : TableBuffer) : Bool :=
  match t.state with
  | .building _ => true
  | _ => false

/-- Whether the table was published. -/
def isInstalled (t : TableBuffer) : Bool :=
  match t.state with
  | .installed => true
  | _ => false

/-- The length that a table would begin with: that of the buffer, or of the header to be made. -/
def baseLength (t : TableBuffer) : Nat := if t.isBuilt then t.length else ErrorSourceHeader.size

/-! ## Appending -/

/-- Writes a number over four bytes of a buffer. -/
def patch (buffer : Bytes) (offset : Nat) (n : UInt32) : Bytes :=
  buffer.overlayAt offset (LittleEndian.encode 4 n.toNat)

/-- The buffer to append to, which is made with a fresh header if there is none. -/
def reserve : Act TableBuffer (Except TableError Bytes) := do
  let t ← Act.get
  match t.state with
  | .empty =>
    let buffer := (ErrorSourceHeader.new t.identity).encode
    Act.set { t with state := .building buffer }
    .say .debug .table "Created HEST header"
    return .ok buffer
  | .building buffer => return .ok buffer
  | .installed => return .error .alreadyInstalled

/-- Appends `count` descriptors, the first `length` bytes of `block`. -/
def append (block : Bytes) (length count : Nat) : Act TableBuffer (Except TableError Unit) := do
  let t ← Act.get
  if !usable block length then
    .say .error .table
      s!"Rejecting {length} bytes of error source descriptors from a {block.length} byte buffer"
    return .error .invalidArgument
  else if t.isInstalled then return .error .alreadyInstalled
  else if UInt32.size ≤ t.baseLength + length then return .error .outOfMemory
  else if UInt32.size ≤ count ∨ UInt32.size ≤ t.sourceCount.toNat + count then
    return .error .invalidArgument
  else
    let newLength := UInt32.ofNat (t.baseLength + length)
    let newCount := UInt32.ofNat (t.sourceCount.toNat + count)
    match ← reserve with
    | .error e => return .error e
    | .ok buffer =>
      let longer := buffer ++ block.take length
      let sized := patch longer DescriptionHeader.lengthOffset newLength
      let counted := patch sized ErrorSourceHeader.sourceCountOffset newCount
      Act.set { t with state := .building counted }
      .say .info .table
        (s!"Added {count} error source descriptor(s), {length} bytes; " ++
          s!"HEST now holds {newCount.toNat} in {newLength.toNat} bytes")
      return .ok ()

/-! ## Publishing -/

/-- Stores the checksum of a buffer, whatever stood in its place. -/
def stamp (buffer : Bytes) : Bytes :=
  let blank := buffer.set DescriptionHeader.checksumOffset 0
  blank.set DescriptionHeader.checksumOffset (Checksum.complement blank)

/-- Hands the buffer to a publisher, if there is one. -/
def install (publish : Publisher ω) :
    Act (TableBuffer × ω) (Except TableError (Option TableKey)) := do
  let t ← Act.onFirst Act.get
  match t.state with
  | .empty =>
    .say .info .table "No error source descriptors were added; HEST not installed"
    return .ok none
  | .installed => return .error .alreadyInstalled
  | .building buffer =>
    let stamped := stamp buffer
    Act.onFirst (.set { t with state := .building stamped })
    match ← Act.onSecond (publish stamped) with
    | .ok key =>
      .say .info .table s!"HEST installed ({stamped.length} bytes, key {key.number})"
      Act.onFirst (.set { t with state := .installed })
      return .ok (some key)
    | .error status =>
      let blank := stamped.set DescriptionHeader.checksumOffset 0
      Act.onFirst (.set { t with state := .building blank })
      .say .error .table s!"Failed to install the HEST: {status.text}"
      return .error (.install status)

end TableBuffer

end Hest
