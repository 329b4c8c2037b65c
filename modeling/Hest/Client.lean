import Hest.Dispatcher
import Hest.Message
import Hest.Table.Basic

/-!
# The client of the collection

The client asks for all descriptors over a channel and appends them to the table, with two messages:
the first has room for the announcement only and is normally refused as too small, the second is
sized for the totals that the first announced.  Nothing is appended when there are no descriptors.
-/

namespace Hest

/-- Why the descriptors cannot be fetched or appended. -/
inductive ClientError where
  /-- A message of that size cannot be held. -/
  | outOfMemory
  /-- The channel failed. -/
  | communicate (status : Status)
  /-- The reply is not well formed. -/
  | reply (error : MessageError)
  /-- The table refused the descriptors. -/
  | append (error : TableError)
deriving DecidableEq

namespace ClientError

/-- The wording of an error. -/
def message : ClientError → String
  | outOfMemory => "Out of memory for the MM communication buffer"
  | communicate status => s!"MM communication failed: {status.text}"
  | reply error => s!"Malformed reply from MM: {error.message}"
  | append error => s!"Failed to append MM error sources to the HEST: {error.message}"

/-- The status that stands for an error. -/
def status : ClientError → Status
  | outOfMemory => .outOfResources
  | communicate status => status
  | reply _ => .protocolError
  | append error => error.status

end ClientError

namespace Client

variable {ω : Type}

/-- What the client did to the table. -/
inductive Outcome where
  /-- There are no descriptors. -/
  | noErrorSources
  /-- `count` descriptors of `length` bytes in all were appended. -/
  | appended (count length : Nat)
deriving DecidableEq

/-- The part of a table service that the client needs. -/
abbrev Appender (ω : Type) :=
  (block : Bytes) → (length count : Nat) → Act ω (Except TableError Unit)

/-- A zeroed message to the collection with room for `room` bytes of descriptors. -/
def request (room : Nat) : Except ClientError Bytes := do
  let size ← (messageSize room).mapError .reply
  if Bytes.capacity < size then .error .outOfMemory
  else do
    let header ← (MessageHeader.forBuffer descriptorService size).mapError .reply
    let written := header.writeTo (Bytes.zeros size)
    let _ ← written.result.mapError .reply
    return written.buffer

/-- Sends a message and gives the status and the payload afterwards. -/
def exchange (channel : Service ω) (message : Bytes) : Act ω (Except Status Unit × Bytes) := do
  let reply ← channel message
  return (reply.result, (message.overlay reply.buffer).drop MessageHeader.size)

/-- The refusals that a first message may meet and still carry the announcement. -/
def sizeReply (s : Status) : Bool := s = .bufferTooSmall || s = .badBufferSize

/-- Asks for the totals, without room for descriptors. -/
def queryTotals (channel : Service ω) : Act ω (Except ClientError Announcement) := do
  match request 0 with
  | .error e => return .error e
  | .ok message =>
    match ← exchange channel message with
    | (.error status, payload) =>
      if sizeReply status then return (Announcement.readFrom payload).mapError .reply
      else
        .say .error .client s!"Failed to query MM error source info: {status.text}"
        return .error (.communicate status)
    | (.ok _, payload) => return (Announcement.readFrom payload).mapError .reply

/-- Asks for the descriptors that were announced to take `room` bytes, and gives them with their
number. -/
def fetch (channel : Service ω) (room : Nat) : Act ω (Except ClientError (Nat × Bytes)) := do
  match request room with
  | .error e => return .error e
  | .ok message =>
    match ← exchange channel message with
    | (.error status, _) =>
      .say .error .client
        s!"Failed to collect error source descriptors from MM: {status.text}"
      return .error (.communicate status)
    | (.ok _, payload) =>
      return (do
        let announcement ← Announcement.readFrom payload
        let descriptors ← announcement.descriptors payload
        return (announcement.count.toNat, descriptors)).mapError .reply

/-- Fetches all descriptors over the channel and appends them to the table. -/
def appendCollected (channel : Service ω) (append : Appender ω) :
    Act ω (Except ClientError Outcome) := do
  match ← queryTotals channel with
  | .error e => return .error e
  | .ok totals =>
    if totals.count = 0 ∨ totals.length = 0 then
      .say .info .client "MM reports no error sources"
      return .ok .noErrorSources
    else
      .say .debug .client
        s!"MM reports {totals.count.toNat} error source(s) in {totals.length.toNat} bytes"
      match ← fetch channel totals.length.toNat with
      | .error e => return .error e
      | .ok (count, descriptors) =>
        if count = 0 ∨ descriptors = [] then
          .say .info .client "MM returned no error source descriptors"
          return .ok .noErrorSources
        else
          match ← append descriptors descriptors.length count with
          | .error e => return .error (.append e)
          | .ok _ =>
            .say .info .client
              s!"Appended {count} MM error source(s), {descriptors.length} bytes"
            return .ok (.appended count descriptors.length)

end Client

end Hest
