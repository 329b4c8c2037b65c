/-!
# Log records

What the parts of the library report while they work: a level, the component that reports, and a
message.  A record is shown as `[LEVEL] component: message`.
-/

namespace Hest.Log

/-- How much a record matters. -/
inductive Level where
  | error | warn | info | debug | trace
deriving DecidableEq

namespace Level

/-- The level as records show it. -/
def text : Level → String
  | error => "ERROR"
  | warn => "WARN"
  | info => "INFO"
  | debug => "DEBUG"
  | trace => "TRACE"

/-- Levels by how much detail they carry: the more severe, the smaller. -/
def detail : Level → Nat
  | error => 1
  | warn => 2
  | info => 3
  | debug => 4
  | trace => 5

end Level

/-- The component that reports. -/
inductive Component where
  | table | collection | messages | registry | client | builder | publisher
deriving DecidableEq

/-- The component as records show it. -/
def Component.text : Component → String
  | table => "hest_table::table"
  | collection => "hest_mm::collect"
  | messages => "hest_mm::mmi"
  | registry => "hest_mm::registry"
  | client => "hest_dxe"
  | builder => "hest_builder"
  | publisher => "hest_builder::publisher"

/-- One report. -/
structure Record where
  level : Level
  component : Component
  message : String
deriving DecidableEq

namespace Record

/-- The line that shows a record. -/
def text (r : Record) : String := s!"[{r.level.text}] {r.component.text}: {r.message}"

/-- Whether a log that shows levels up to `most` shows this record. -/
def shownAt (most : Level) (r : Record) : Bool := r.level.detail ≤ most.detail

end Record

end Hest.Log
