import Hest.Client
import Hest.Collection
import Hest.CommandLine.Settings
import Hest.Files.Basic
import Hest.Registry

/-!
# Building a table

A table is built from settings the way the firmware builds it: each descriptor file and each generic
source becomes a producer, the client collects what the producers hold over the dispatcher and
appends it to the table, and the table is published by writing it to a file.

`build` does this in stages, and the first stage that fails ends it: the identity, the descriptor
files in order, the generic sources in order, the collection, the publication.  Nothing is written
before the publication.
-/

namespace Hest

open CommandLine (Settings DescriptorFile SourceEntry)

/-- Why no table is built. -/
inductive BuildError where
  /-- A descriptor file cannot be read. -/
  | read (path : String) (why : FileError)
  /-- The identity is not well formed. -/
  | identity (why : LayoutError)
  /-- A generic source has no room for its acknowledge register. -/
  | sourceAddress (sourceId : UInt16)
  /-- The collection cannot be set up. -/
  | setup (status : Status)
  /-- The descriptors cannot be collected. -/
  | collect (why : ClientError)
  /-- The table cannot be published. -/
  | install (why : TableError)
deriving DecidableEq

/-- The wording of an error. -/
def BuildError.message : BuildError → String
  | read path why => s!"Failed to read {path}: {why.message}"
  | identity why => s!"Invalid table identity: {why.message}"
  | sourceAddress sourceId =>
    s!"GHES source {sourceId.toNat}: read-ack register address overflows"
  | setup status => s!"Failed to set up the MM collector: {status.text}"
  | collect why => why.message
  | install why => why.message

namespace Build

variable {ω : Type}

/-! ## What settings ask for -/

/-- The edits of the standard identity that settings ask for. -/
def edits (s : Settings) : List Identity.Edit :=
  (s.oemId.map .oemIdText).toList ++ (s.oemTableId.map .oemTableIdText).toList ++
    (s.oemRevision.map .oemRevision).toList

/-- The identity that settings ask for. -/
def identity (s : Settings) : Except LayoutError Identity := Identity.standard.editAll (edits s)

/-- The descriptor of a generic source: it is notified by a synchronous abort, and its acknowledge
register follows its status address. -/
def genericSource (e : SourceEntry) : Except BuildError GenericSource :=
  match e.readAckAddress? with
  | none => .error (.sourceAddress e.sourceId)
  | some readAck =>
    .ok (.new e.sourceId e.statusAddress readAck (.new .synchronousAbort 0 0))

/-! ## Producers -/

/-- Makes a producer of each descriptor file, in a registry beside the files. -/
def installFiles (files : Files ω) :
    List DescriptorFile → Act (ω × Registry FixedSources) (Except BuildError Unit)
  | [] => pure (.ok ())
  | f :: rest => do
    match ← Act.onFirst (files.read f.path) with
    | .error e => return .error (.read f.path e)
    | .ok content =>
      .say .info .builder s!"{f.path}: {f.count} descriptor(s), {content.length} bytes"
      let _ ← Act.onSecond (Registry.install ⟨content, f.count⟩)
      installFiles files rest

/-- Makes a producer of each generic source. -/
def installSources : List SourceEntry → Act (Registry FixedSources) (Except BuildError Unit)
  | [] => pure (.ok ())
  | e :: rest => do
    match genericSource e with
    | .error e => return .error e
    | .ok source =>
      match FixedSources.ofGeneric [source] with
      | .error status => return .error (.setup status)
      | .ok producer =>
        let _ ← Registry.install producer
        installSources rest

/-- Makes the producers that settings ask for. -/
def installAll (files : Files ω) (s : Settings) :
    Act (ω × Registry FixedSources) (Except BuildError Unit) := do
  match ← installFiles files s.descriptors with
  | .error e => return .error e
  | .ok _ => Act.onSecond (installSources s.sources)

/-! ## Collection -/

/-- The fixed producers of a registry. -/
def roster : Roster (Registry FixedSources) FixedSources where
  locate := do return (← Act.get).locate
  ask producer destination := pure (producer.answer destination)

/-- Collects the descriptors of a registry over a dispatcher and appends them to a table. -/
def collect : Act (Registry FixedSources × Table) (Except BuildError Unit) := do
  let (registered, dispatcher) ←
    Act.withLocal {} (Act.onSecond (Dispatcher.register descriptorService ()))
  match registered with
  | .error status => return .error (.setup status)
  | .ok _ =>
    let channel : Service (Registry FixedSources × Table) :=
      dispatcher.communicate fun _ payload => Act.onFirst (Collection.answer roster payload)
    match ← Client.appendCollected channel fun block length count =>
        Act.onSecond (Table.append block length count) with
    | .error e => return .error (.collect e)
    | .ok .noErrorSources => return .ok ()
    | .ok (.appended count length) =>
      .say .info .builder s!"Collected {count} error source(s), {length} bytes"
      return .ok ()

/-! ## Publication -/

/-- The publisher that writes a table to a file, beside the number of tables that it wrote; keys are
these numbers. -/
def publisher (files : Files ω) (path : String) : Table.Publisher (ω × Nat) := fun table => do
  match ← Act.onFirst (files.write path table) with
  | .error e =>
    .say .error .publisher s!"Failed to write {path}: {e.message}"
    return .error .deviceError
  | .ok _ =>
    .say .info .publisher s!"Wrote {table.length} bytes to {path}"
    let key := (← Act.onSecond Act.get) + 1
    Act.onSecond (Act.set key)
    return .ok ⟨key⟩

/-- Publishes a table as a file. -/
def publish (files : Files ω) (path : String) (table : Table) :
    Act ω (Except BuildError Unit) := do
  let published ← Act.focus (fun w => (table, (w, 0))) (fun s _ => s.2.1)
    (Table.install (publisher files path))
  match published with
  | .error e => return .error (.install e)
  | .ok none =>
    .say .info .builder "No error sources; nothing written"
    return .ok ()
  | .ok (some _) =>
    .say .info .builder
      (s!"HEST with {table.sourceCount.toNat} error source(s), " ++
        s!"{table.length} bytes written to {path}")
    return .ok ()

end Build

/-- Builds the table that settings ask for. -/
def build {ω : Type} (files : Files ω) (s : Settings) : Act ω (Except BuildError Unit) := do
  match Build.identity s with
  | .error e => return .error (.identity e)
  | .ok identity =>
    let (installed, registry) ← Act.withLocal {} (Build.installAll files s)
    match installed with
    | .error e => return .error e
    | .ok _ =>
      let (collected, (_, table)) ←
        Act.withLocal (registry, ({ identity } : Table)) (Act.onSecond Build.collect)
      match collected with
      | .error e => return .error e
      | .ok _ => Build.publish files s.output table

end Hest
