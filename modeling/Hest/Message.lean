import Hest.Guid

/-!
# Messages

A message buffer begins with 24 bytes: the GUID of the handler that it is for, and the length of the
payload that follows.

The payload that carries descriptors begins with an announcement of 16 bytes, the number of
descriptors and their bytes.  The descriptors follow it (`Announcement.descriptors`).  Reading takes
the two numbers one after the other, so a payload of fewer than 8 bytes is found too short for the
first.

What is announced are totals.  Their sums stay within 64 bits in both numbers: `Totals.add?` refuses
a sum that would not.
-/

namespace Hest

/-! ## Errors -/

/-- Why writing or reading a part of a message fails. -/
inductive MessageError where
  /-- The buffer ends before the part does. -/
  | tooShort (needed actual : Nat)
  /-- A size does not fit in 64 bits. -/
  | lengthOverflow
deriving DecidableEq

/-- The wording of an error. -/
def MessageError.message : MessageError → String
  | tooShort needed actual => s!"Buffer too short: needed {needed} bytes, got {actual}"
  | lengthOverflow => "Buffer size does not fit the ABI's integer width"

/-! ## Headers -/

/-- The header of a message. -/
structure MessageHeader where
  /-- Whom the payload is for. -/
  recipient : Guid
  /-- The bytes of the payload. -/
  payloadLength : UInt64
deriving DecidableEq

namespace MessageHeader

/-- The bytes of a header. -/
def size : Nat := 24

/-- The header of a message of `total` bytes. -/
def forBuffer (recipient : Guid) (total : Nat) : Except MessageError MessageHeader :=
  if total < size then .error (.tooShort size total)
  else if total - size < UInt64.size then .ok ⟨recipient, .ofNat (total - size)⟩
  else .error .lengthOverflow

/-- The bytes of a header. -/
def encode (h : MessageHeader) : Bytes :=
  h.recipient.encode ++ LittleEndian.encode 8 h.payloadLength.toNat

/-- The header that 24 bytes hold. -/
def decode (b : Block 24) : MessageHeader where
  recipient := .decode (b.window 0 16 (by decide))
  payloadLength := .ofNat (LittleEndian.decode (b.window 16 8 (by decide)).bytes)

@[simp] theorem length_encode (h : MessageHeader) : h.encode.length = size := by
  simp [encode, size]

/-- Lays the header over the start of a buffer that can hold it. -/
def writeTo (h : MessageHeader) (buffer : Bytes) : InPlace MessageError Unit :=
  if buffer.length < size then ⟨.error (.tooShort size buffer.length), buffer⟩
  else ⟨.ok (), buffer.overlay h.encode⟩

/-- The header at the start of a buffer. -/
def readFrom (buffer : Bytes) : Except MessageError MessageHeader :=
  match Block.ofPrefix? 24 buffer with
  | some b => .ok (decode b)
  | none => .error (.tooShort size buffer.length)

end MessageHeader

/-! ## Totals -/

/-- A number of descriptors and the bytes they take together. -/
structure Totals where
  count : Nat
  length : Nat
deriving DecidableEq

namespace Totals

/-- Nothing. -/
def zero : Totals := ⟨0, 0⟩

/-- Whether there is no descriptor, or no byte of one. -/
def isEmpty (t : Totals) : Bool := t.count == 0 || t.length == 0

/-- The sum, if both numbers stay within 64 bits. -/
def add? (a b : Totals) : Option Totals :=
  if a.count + b.count < UInt64.size ∧ a.length + b.length < UInt64.size then
    some ⟨a.count + b.count, a.length + b.length⟩
  else none

end Totals

/-! ## Announcements -/

/-- The totals of the descriptors in a payload, as they travel with it. -/
structure Announcement where
  count : UInt64
  length : UInt64
deriving DecidableEq

namespace Announcement

/-- The bytes of an announcement. -/
def size : Nat := 16

/-- The announcement of totals that fit in 64 bits. -/
def ofTotals (t : Totals) : Announcement := ⟨.ofNat t.count, .ofNat t.length⟩

/-- The bytes of an announcement. -/
def encode (a : Announcement) : Bytes :=
  LittleEndian.encode 8 a.count.toNat ++ LittleEndian.encode 8 a.length.toNat

/-- The announcement that 16 bytes hold. -/
def decode (b : Block 16) : Announcement where
  count := .ofNat (LittleEndian.decode (b.window 0 8 (by decide : 0 + 8 ≤ size)).bytes)
  length := .ofNat (LittleEndian.decode (b.window 8 8 (by decide : 8 + 8 ≤ size)).bytes)

@[simp] theorem length_encode (a : Announcement) : a.encode.length = size := by
  simp [encode, size]

/-- Lays the announcement over the start of a payload that can hold it. -/
def writeTo (a : Announcement) (payload : Bytes) : InPlace MessageError Unit :=
  if payload.length < size then ⟨.error (.tooShort size payload.length), payload⟩
  else ⟨.ok (), payload.overlay a.encode⟩

/-- The announcement at the start of a payload. -/
def readFrom (payload : Bytes) : Except MessageError Announcement :=
  match Block.ofPrefix? 16 payload with
  | some b => .ok (decode b)
  | none => .error (.tooShort (if payload.length < 8 then 8 else size) payload.length)

/-- The descriptor bytes that are announced, taken from the payload. -/
def descriptors (a : Announcement) (payload : Bytes) : Except MessageError Bytes :=
  if UInt64.size ≤ size + a.length.toNat then .error .lengthOverflow
  else if payload.length < size + a.length.toNat then
    .error (.tooShort (size + a.length.toNat) payload.length)
  else .ok (payload.window size a.length.toNat)

end Announcement

/-- The bytes of a message that carries `descriptorLength` bytes of descriptors. -/
def messageSize (descriptorLength : Nat) : Except MessageError Nat :=
  if MessageHeader.size + Announcement.size + descriptorLength < UInt64.size then
    .ok (MessageHeader.size + Announcement.size + descriptorLength)
  else .error .lengthOverflow

/-! ## Well-known services -/

/-- Whom a request for error source descriptors is for. -/
def descriptorService : Guid :=
  ⟨0x7d602951, 0x678e, 0x4cc4, ⟨[0x98, 0xd9, 0xe3, 0x76, 0x04, 0xf6, 0x93, 0x0d], rfl⟩⟩

/-- The protocol under which producers of descriptors are installed. -/
def producerProtocol : Guid :=
  ⟨0x560bf236, 0xa4a8, 0x4d69, ⟨[0xbc, 0xf6, 0xc2, 0x97, 0x24, 0x10, 0x9d, 0x91], rfl⟩⟩

/-- The protocol under which drivers reach the table. -/
def tableProtocol : Guid :=
  ⟨0x705bdcd9, 0x8c47, 0x457e, ⟨[0xad, 0x0d, 0xf7, 0x86, 0xf3, 0x4a, 0x0d, 0x63], rfl⟩⟩

end Hest
