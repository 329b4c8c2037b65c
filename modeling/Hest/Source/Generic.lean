import Hest.Source.Notification

/-!
# Generic hardware error sources

The descriptor, of version 2, of an error source whose errors the firmware handles first: 92 bytes
that say where the error status block is, how the operating system is notified when it is filled,
and which register acknowledges that it was read.

Where a register is, a generic address says in twelve bytes: its address space, its width and offset
in bits, how it is accessed, and its address there.
-/

namespace Hest

/-! ## Generic addresses -/

/-- The place of a register in some address space. -/
structure GenericAddress where
  space : UInt8
  bitWidth : UInt8
  bitOffset : UInt8
  /-- 1 for a byte, 2 for two, 3 for four, 4 for eight bytes. -/
  accessSize : UInt8
  address : UInt64
deriving DecidableEq

namespace GenericAddress

/-- The bytes of a generic address. -/
def size : Nat := 12

/-- An eight-byte register in system memory. -/
def memory (address : UInt64) : GenericAddress := ⟨0, 64, 0, 4, address⟩

/-- The bytes of a generic address. -/
def encode (a : GenericAddress) : Bytes :=
  [a.space, a.bitWidth, a.bitOffset, a.accessSize] ++ LittleEndian.encode 8 a.address.toNat

@[simp] theorem length_encode (a : GenericAddress) : a.encode.length = size := by
  simp [encode, size]

end GenericAddress

/-! ## Descriptors -/

/-- The descriptor of a generic hardware error source, version 2. -/
structure GenericSource where
  sourceId : UInt16
  relatedSourceId : UInt16
  flags : UInt8
  enabled : Bool
  recordsToPreallocate : UInt32
  maxSectionsPerRecord : UInt32
  maxRawDataLength : UInt32
  /-- Where the pointer to the error status block is. -/
  statusAddress : GenericAddress
  notification : Notification
  statusBlockLength : UInt32
  readAckRegister : GenericAddress
  readAckPreserve : UInt64
  readAckWrite : UInt64
deriving DecidableEq

namespace GenericSource

/-- The bytes of a descriptor. -/
def size : Nat := 92

/-- The number that marks a descriptor as of this type. -/
def typeCode : UInt16 := 10

/-- The related source of a source that has none. -/
def unrelated : UInt16 := 0xffff

/-- The length of an error status block if nothing else is asked for. -/
def standardBlockLength : UInt32 := 4096

/-- An enabled source with one preallocated record. -/
def new (sourceId : UInt16) (statusAddress readAckRegister : UInt64)
    (notification : Notification) : GenericSource where
  sourceId
  relatedSourceId := unrelated
  flags := 0
  enabled := true
  recordsToPreallocate := 1
  maxSectionsPerRecord := 1
  maxRawDataLength := standardBlockLength
  statusAddress := .memory statusAddress
  notification
  statusBlockLength := standardBlockLength
  readAckRegister := .memory readAckRegister
  readAckPreserve := 0
  readAckWrite := 1

/-- The bytes of a descriptor. -/
def encode (s : GenericSource) : Bytes :=
  LittleEndian.encode 2 typeCode.toNat ++ LittleEndian.encode 2 s.sourceId.toNat ++
    LittleEndian.encode 2 s.relatedSourceId.toNat ++ [s.flags, if s.enabled then 1 else 0] ++
    LittleEndian.encode 4 s.recordsToPreallocate.toNat ++
    LittleEndian.encode 4 s.maxSectionsPerRecord.toNat ++
    LittleEndian.encode 4 s.maxRawDataLength.toNat ++
    s.statusAddress.encode ++ s.notification.encode ++
    LittleEndian.encode 4 s.statusBlockLength.toNat ++ s.readAckRegister.encode ++
    LittleEndian.encode 8 s.readAckPreserve.toNat ++ LittleEndian.encode 8 s.readAckWrite.toNat

@[simp] theorem length_encode (s : GenericSource) : s.encode.length = size := by
  simp [encode, size, GenericAddress.size, Notification.size]

end GenericSource

end Hest
