import Hest.Bytes

/-!
# Notifications

How the operating system learns that an error status block was filled: 28 bytes that begin with the
kind of notification and their own length.

Which of its fields the operating system may reconfigure is told by write-enable bits: one bit a
field, and ten reserved bits that are kept as they are.
-/

namespace Hest

/-! ## Write-enable bits -/

/-- The write-enable bits of a notification. -/
structure WriteEnable where
  bits : UInt16
deriving DecidableEq

namespace WriteEnable

/-- A field that the operating system may be allowed to reconfigure. -/
inductive Field where
  | kind
  | pollInterval
  | pollingThresholdValue
  | pollingThresholdWindow
  | errorThresholdValue
  | errorThresholdWindow
deriving DecidableEq

/-- The fields in the order of their bits. -/
def Field.all : List Field :=
  [.kind, .pollInterval, .pollingThresholdValue, .pollingThresholdWindow, .errorThresholdValue,
    .errorThresholdWindow]

/-- The bit of a field, as a mask. -/
def Field.mask : Field → UInt16
  | kind => 1
  | pollInterval => 2
  | pollingThresholdValue => 4
  | pollingThresholdWindow => 8
  | errorThresholdValue => 16
  | errorThresholdWindow => 32

/-- No field may be reconfigured. -/
def none : WriteEnable := ⟨0⟩

/-- Whether a field may be reconfigured. -/
def allows (w : WriteEnable) (f : Field) : Bool := w.bits &&& f.mask != 0

/-- Allows or forbids one field and leaves all other bits. -/
def set (w : WriteEnable) (f : Field) (allowed : Bool) : WriteEnable :=
  if allowed then ⟨w.bits ||| f.mask⟩ else ⟨w.bits &&& ~~~f.mask⟩

end WriteEnable

/-! ## Notifications -/

/-- The mechanism by which the operating system is notified. -/
inductive Mechanism where
  | polled
  | externalInterrupt
  | localInterrupt
  | systemControlInterrupt
  | nonMaskableInterrupt
  | correctedMachineCheck
  | machineCheck
  | gpioSignal
  /-- A synchronous external abort. -/
  | synchronousAbort
  | systemErrorInterrupt
  /-- A global interrupt vector. -/
  | globalInterrupt
  | softwareDelegated
deriving DecidableEq

/-- The byte that stands for a mechanism. -/
def Mechanism.code : Mechanism → UInt8
  | polled => 0
  | externalInterrupt => 1
  | localInterrupt => 2
  | systemControlInterrupt => 3
  | nonMaskableInterrupt => 4
  | correctedMachineCheck => 5
  | machineCheck => 6
  | gpioSignal => 7
  | synchronousAbort => 8
  | systemErrorInterrupt => 9
  | globalInterrupt => 10
  | softwareDelegated => 11

/-- How the operating system is notified. -/
structure Notification where
  mechanism : Mechanism
  writeEnable : WriteEnable
  /-- In milliseconds, for a polled source. -/
  pollInterval : UInt32
  /-- Interrupt vector or event number, depending on the mechanism. -/
  vector : UInt32
  pollingThresholdValue : UInt32
  pollingThresholdWindow : UInt32
  errorThresholdValue : UInt32
  errorThresholdWindow : UInt32
deriving DecidableEq

namespace Notification

/-- The bytes of a notification. -/
def size : Nat := 28

/-- A notification without thresholds, of which nothing may be reconfigured. -/
def new (mechanism : Mechanism) (pollInterval vector : UInt32) : Notification where
  mechanism
  writeEnable := .none
  pollInterval
  vector
  pollingThresholdValue := 0
  pollingThresholdWindow := 0
  errorThresholdValue := 0
  errorThresholdWindow := 0

/-- The bytes of a notification. -/
def encode (n : Notification) : Bytes :=
  [n.mechanism.code, 28] ++ LittleEndian.encode 2 n.writeEnable.bits.toNat ++
    LittleEndian.encode 4 n.pollInterval.toNat ++ LittleEndian.encode 4 n.vector.toNat ++
    LittleEndian.encode 4 n.pollingThresholdValue.toNat ++
    LittleEndian.encode 4 n.pollingThresholdWindow.toNat ++
    LittleEndian.encode 4 n.errorThresholdValue.toNat ++
    LittleEndian.encode 4 n.errorThresholdWindow.toNat

@[simp] theorem length_encode (n : Notification) : n.encode.length = size := by
  simp [encode, size]

end Notification

end Hest
