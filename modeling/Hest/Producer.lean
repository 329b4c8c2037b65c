import Hest.Act
import Hest.Bytes
import Hest.Message
import Hest.Source.Generic
import Hest.Status

/-!
# Producers of descriptors

A producer is asked for its descriptors with a destination for them, or with none, to learn their
size.  It answers with a report, or fails with a status; what it writes is laid over the start of
the destination.

`FixedSources` is the producer whose descriptors are known when it is made.

A roster is how a collection reaches producers: it looks them up, and it asks each of them.  What a
producer does when it is asked, to the state it shares with others too, is up to the roster.
-/

namespace Hest

/-! ## Asking a producer -/

/-- What a producer reports. -/
inductive Report where
  /-- Only the size of its descriptors. -/
  | sizeOnly (totals : Totals)
  /-- That it wrote its descriptors to the start of the destination. -/
  | written (totals : Totals)
deriving DecidableEq

/-- What a producer does when it is asked: its report or its failure, and the bytes that it leaves
at the start of the destination. -/
structure Answer where
  outcome : Except Status Report
  bytes : Bytes := []

/-! ## Fixed descriptors -/

/-- A producer whose descriptors are fixed. -/
structure FixedSources where
  descriptors : Bytes := []
  count : Nat := 0

namespace FixedSources

/-- The descriptors of generic sources, one after another. -/
def ofGeneric (sources : List GenericSource) : Except Status FixedSources :=
  if sources.length * GenericSource.size ≤ Bytes.capacity then
    .ok ⟨sources.flatMap GenericSource.encode, sources.length⟩
  else .error .outOfResources

/-- The size of the descriptors. -/
def totals (s : FixedSources) : Totals := ⟨s.count, s.descriptors.length⟩

/-- The descriptors are written if the destination can hold them; else only their size is
reported. -/
def answer (s : FixedSources) (destination : Option Bytes) : Answer :=
  match destination with
  | some d =>
    if s.descriptors.length ≤ d.length then ⟨.ok (.written s.totals), s.descriptors⟩
    else ⟨.ok (.sizeOnly s.totals), []⟩
  | none => ⟨.ok (.sizeOnly s.totals), []⟩

end FixedSources

/-! ## Rosters -/

/-- Why producers cannot be found. -/
inductive LookupError where
  /-- There is none. -/
  | notFound
  /-- They cannot be looked up. -/
  | unavailable (status : Status)
deriving DecidableEq

namespace LookupError

/-- The wording of an error. -/
def message : LookupError → String
  | notFound => "No error source producers are installed"
  | unavailable status => s!"Failed to locate error source producers: {status.text}"

/-- The status that stands for an error. -/
def status : LookupError → Status
  | notFound => .notFound
  | unavailable status => status

end LookupError

/-- The producers that a collection can reach: how they are looked up, and how each is asked. -/
structure Roster (ω π : Type) where
  locate : Act ω (Except LookupError (List π))
  ask : π → Option Bytes → Act ω Answer

namespace Roster

/-- The same producers on a larger state, of which `part` reads their state and `put` replaces
it. -/
def focus {ω σ π : Type} (part : ω → σ) (put : σ → ω → ω) (roster : Roster σ π) :
    Roster ω π where
  locate := Act.focus part put roster.locate
  ask producer destination := Act.focus part put (roster.ask producer destination)

/-- The roster whose look-up always fails. -/
def failing {ω π : Type} (error : LookupError) : Roster ω π where
  locate := pure (.error error)
  ask _ _ := pure ⟨.error error.status, []⟩

end Roster

end Hest
