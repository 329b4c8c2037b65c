import Hest.Message
import Hest.Producer

/-!
# Collecting descriptors

The descriptors of all producers are collected into one payload, in two passes over the producers
that are installed when the collection begins.

* `probe` asks each producer for its size and sums the sizes.  A producer that fails, or whose size
  would take the totals out of 64 bits, is left out.
* The payload begins with the announcement of these totals, which is written even when the
  descriptors do not fit, so that the next request can be of the right size.
* `fill` lets each producer write at the end of what those before it wrote.  Only what was written
  within the room offered counts; the announcement is not corrected for a producer that fails.

`collect` does all this; `answer` is the message handler made of it.
-/

namespace Hest

/-- Why a collection ends without descriptors. -/
inductive CollectError where
  /-- The payload cannot hold the announcement. -/
  | invalidBuffer
  /-- The totals are announced; the descriptors do not fit. -/
  | bufferTooSmall (required available : Nat)
  /-- The producers cannot be looked up. -/
  | lookup (status : Status)
deriving DecidableEq

namespace CollectError

/-- The wording of an error. -/
def message : CollectError → String
  | invalidBuffer => "Communication buffer too small for the descriptor info header"
  | bufferTooSmall required available =>
    s!"Descriptors need {required} bytes, the buffer holds {available}"
  | lookup status => s!"Failed to locate error source producers: {status.text}"

/-- The status that stands for an error. -/
def status : CollectError → Status
  | invalidBuffer => .invalidParameter
  | bufferTooSmall _ _ => .bufferTooSmall
  | lookup status => status

end CollectError

/-- The totals that a collection announced, and those of the descriptors that were written. -/
structure Collected where
  declared : Totals
  written : Totals
deriving DecidableEq

namespace Collection

variable {ω π : Type}

/-! ## The first pass -/

/-- The totals after the answer of the producer at `index`, and what is reported of it. -/
def tally (index : Nat) (total : Totals) : Except Status Report → Totals × Log.Record
  | .ok (.sizeOnly t) =>
    match total.add? t with
    | some sum =>
      (sum, ⟨.trace, .collection, s!"Producer {index}: {t.count} descriptor(s), {t.length} bytes"⟩)
    | none =>
      (total, ⟨.warn, .collection,
        s!"Producer {index} overflows the descriptor totals; skipped"⟩)
  | .ok (.written _) =>
    (total, ⟨.warn, .collection,
      s!"Producer {index} wrote descriptors without a destination; skipped"⟩)
  | .error status =>
    (total, ⟨.debug, .collection, s!"Producer {index} failed the size query: {status.text}"⟩)

/-- Sums the sizes of the producers, of which the first has the given index. -/
def probe (roster : Roster ω π) (index : Nat) (total : Totals) :
    (producers : List π) → Act ω Totals
  | [] => pure total
  | p :: ps => do
    let answer ← roster.ask p none
    let (total, record) := tally index total answer.outcome
    Act.report [record]
    probe roster (index + 1) total ps

/-! ## The second pass -/

/-- Counts stay within 64 bits: a larger sum counts as the largest. -/
def countUpTo (a b : Nat) : Nat := min (a + b) (UInt64.size - 1)

/-- The totals of what the producer at `index` wrote, if it is accepted, and what is reported of
it; `room` bytes were offered. -/
def verdict (index room : Nat) : Except Status Report → Option Totals × List Log.Record
  | .ok (.written t) =>
    if t.length ≤ room then
      (some t, [⟨.trace, .collection, s!"Producer {index} wrote {t.length} bytes"⟩])
    else
      (none, [⟨.warn, .collection,
        s!"Producer {index} reports {t.length} bytes for {room} available; skipped"⟩])
  | .ok (.sizeOnly t) =>
    (none, if t.isEmpty then []
      else [⟨.warn, .collection, s!"Producer {index} did not write its descriptors"⟩])
  | .error status =>
    (none, [⟨.warn, .collection,
      s!"Producer {index} failed to write descriptors: {status.text}"⟩])

/-- Lets each producer write into what is left of the region, and gives the totals of what was
written and the region afterwards. -/
def fill (roster : Roster ω π) (index : Nat) (written : Totals) (region : Bytes) :
    (producers : List π) → Act ω (Totals × Bytes)
  | [] => pure (written, region)
  | p :: ps => do
    let answer ← roster.ask p (some region)
    let region' := region.overlay answer.bytes
    let (accepted, records) := verdict index region.length answer.outcome
    Act.report records
    match accepted with
    | none => fill roster (index + 1) written region' ps
    | some t =>
      let sum : Totals := ⟨countUpTo written.count t.count, written.length + t.length⟩
      let (total, rest) ← fill roster (index + 1) sum (region'.drop t.length) ps
      return (total, region'.take t.length ++ rest)

/-! ## The collection -/

/-- Collects the descriptors of given producers into a payload that can hold the announcement. -/
def gather (roster : Roster ω π) (producers : List π) (payload : Bytes) :
    Act ω (InPlace CollectError Collected) := do
  let declared ← probe roster 0 .zero producers
  let announcement := (Announcement.ofTotals declared).encode
  let region := payload.drop Announcement.size
  if declared.length = 0 then
    return ⟨.ok ⟨declared, .zero⟩, announcement ++ region⟩
  else if region.length < declared.length then
    .say .debug .collection
      (s!"Error source descriptors need {declared.length} bytes, " ++
        s!"buffer holds {region.length}")
    return ⟨.error (.bufferTooSmall declared.length region.length), announcement ++ region⟩
  else
    let (written, region) ← fill roster 0 .zero region producers
    if written.length < declared.length then
      .say .warn .collection
        (s!"Copied {written.length} of {declared.length} " ++
          "declared error source descriptor bytes")
    return ⟨.ok ⟨declared, written⟩, announcement ++ region⟩

/-- Collects the descriptors of all producers into a payload. -/
def collect (roster : Roster ω π) (payload : Bytes) :
    Act ω (InPlace CollectError Collected) := do
  if payload.length < Announcement.size then
    return ⟨.error .invalidBuffer, payload⟩
  else
    match ← roster.locate with
    | .ok producers => gather roster producers payload
    | .error .notFound =>
      .say .debug .collection "No error source producers installed"
      gather roster [] payload
    | .error (.unavailable status) => return ⟨.error (.lookup status), payload⟩

/-- Answers a request for descriptors with a collection. -/
def answer (roster : Roster ω π) (payload : Bytes) : Act ω (InPlace Status Unit) := do
  let reply ← collect roster payload
  match reply.result with
  | .ok report =>
    .say .info .messages
      (s!"Returned {report.written.count} error source descriptor(s), " ++
        s!"{report.written.length} bytes")
    return ⟨.ok (), reply.buffer⟩
  | .error e =>
    .say .debug .messages s!"Error source collection stopped: {e.message}"
    return ⟨.error e.status, reply.buffer⟩

end Collection

end Hest
