import Hest.Producer

/-!
# The registry of producers

Producers are installed under handles, which are numbered from 0 and never used twice; one producer
may be installed several times.  A look-up takes the producers as they are installed at that moment,
in the order of installation.

Producers may change the registry while they are asked: `Registry.roster` asks the producers of a
registry that way.
-/

namespace Hest

/-- Names one installation of a producer. -/
structure Handle where
  number : Nat
deriving DecidableEq

/-- The installed producers, oldest installation first, and how many handles were issued. -/
structure Registry (π : Type) where
  issued : Nat := 0
  installed : List (Handle × π) := []

namespace Registry

variable {π ω : Type}

/-- The number of installations. -/
def size (r : Registry π) : Nat := r.installed.length

/-- Whether nothing is installed. -/
def isEmpty (r : Registry π) : Bool := r.size == 0

/-- The producer installed under a handle. -/
def find? (r : Registry π) (h : Handle) : Option π := r.installed.lookup h

/-- Installs a producer under a new handle. -/
def install (producer : π) : Act (Registry π) Handle := do
  let r ← Act.get
  let handle : Handle := ⟨r.issued⟩
  Act.set { issued := r.issued + 1, installed := r.installed ++ [(handle, producer)] }
  .say .debug .registry s!"Installed error source producer {handle.number}"
  return handle

/-- Ends an installation and gives its producer. -/
def uninstall (handle : Handle) : Act (Registry π) (Except LookupError π) := do
  let r ← Act.get
  match r.find? handle with
  | none => return .error .notFound
  | some producer =>
    .say .debug .registry s!"Uninstalled error source producer {handle.number}"
    Act.set { r with installed := r.installed.eraseP (·.1 = handle) }
    return .ok producer

/-- The producers installed at this moment. -/
def locate (r : Registry π) : Except LookupError (List π) :=
  if r.isEmpty then .error .notFound else .ok (r.installed.map (·.2))

/-- What a producer may do to its surroundings while it is asked. -/
inductive Step (π : Type) where
  | install (producer : π)
  | uninstall (handle : Handle)
  | report (record : Log.Record)

/-- Takes one step. -/
def step : Step π → Act (Registry π) Unit
  | .install producer => do let _ ← install producer
  | .uninstall handle => do let _ ← uninstall handle
  | .report record => .report [record]

/-- Takes steps in order. -/
def steps : List (Step π) → Act (Registry π) Unit
  | [] => pure ()
  | s :: ss => do step s; steps ss

/-- What a producer does when it is asked: the steps that it takes, then its answer, and what is
remembered of it. -/
structure Conduct (π σ : Type) where
  answer : Answer
  steps : List (Step π) := []
  memory : σ

/-- The producers of a registry, each of which may change the registry while it is asked. -/
def roster {σ : Type} (conduct : π → Option Bytes → Registry π → σ → Conduct π σ) :
    Roster (Registry π × σ) π where
  locate := do return (← Act.onFirst Act.get).locate
  ask producer destination := do
    let (r, memory) ← Act.get
    let c := conduct producer destination r memory
    Act.onFirst (steps c.steps)
    Act.onSecond (Act.set c.memory)
    return c.answer

end Registry

end Hest
