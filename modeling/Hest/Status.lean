/-!
# Status codes

The status a firmware service answers with: 64 bits, of which the highest marks an error.  Codes
that the firmware interface names are written by that name, all others as a number (`text`).
A call can fail with any code, also with the one that is named for success.
-/

namespace Hest

/-- A firmware status code. -/
structure Status where
  code : UInt64
deriving DecidableEq

namespace Status

/-- The error status of a number: the highest bit is set. -/
def ofError (n : UInt64) : Status := ⟨0x8000000000000000 ||| n⟩

/-- The names of the codes without the error bit, from code 0 on. -/
def warningNames : List String :=
  ["SUCCESS", "WARN_UNKNOWN_GLYPH", "WARN_DELETE_FAILURE", "WARN_WRITE_FAILURE",
    "WARN_BUFFER_TOO_SMALL", "WARN_STALE_DATA", "WARN_FILE_SYSTEM", "WARN_RESET_REQUIRED"]

/-- The named error numbers. -/
def errorNames : List (Nat × String) :=
  [(1, "LOAD_ERROR"), (2, "INVALID_PARAMETER"), (3, "UNSUPPORTED"), (4, "BAD_BUFFER_SIZE"),
    (5, "BUFFER_TOO_SMALL"), (6, "NOT_READY"), (7, "DEVICE_ERROR"), (8, "WRITE_PROTECTED"),
    (9, "OUT_OF_RESOURCES"), (10, "VOLUME_CORRUPTED"), (11, "VOLUME_FULL"), (12, "NO_MEDIA"),
    (13, "MEDIA_CHANGED"), (14, "NOT_FOUND"), (15, "ACCESS_DENIED"), (16, "NO_RESPONSE"),
    (17, "NO_MAPPING"), (18, "TIMEOUT"), (19, "NOT_STARTED"), (20, "ALREADY_STARTED"),
    (21, "ABORTED"), (22, "ICMP_ERROR"), (23, "TFTP_ERROR"), (24, "PROTOCOL_ERROR"),
    (25, "INCOMPATIBLE_VERSION"), (26, "SECURITY_VIOLATION"), (27, "CRC_ERROR"),
    (28, "END_OF_MEDIA"), (31, "END_OF_FILE"), (32, "INVALID_LANGUAGE"),
    (33, "COMPROMISED_DATA"), (34, "IP_ADDRESS_CONFLICT"), (35, "HTTP_ERROR")]

/-- The name of a status, if it has one. -/
def name? (s : Status) : Option String :=
  let n := s.code.toNat
  if n < 0x8000000000000000 then warningNames[n]?
  else errorNames.lookup (n - 0x8000000000000000)

/-- A status as messages show it: its name, or `Status(N)`. -/
def text (s : Status) : String := s.name?.getD s!"Status({s.code.toNat})"

def success : Status := ⟨0⟩
def invalidParameter : Status := ofError 2
def badBufferSize : Status := ofError 4
def bufferTooSmall : Status := ofError 5
def deviceError : Status := ofError 7
def outOfResources : Status := ofError 9
def notFound : Status := ofError 14
def alreadyStarted : Status := ofError 20
def aborted : Status := ofError 21
def protocolError : Status := ofError 24

end Status

end Hest
