import Hest.Collection
import Hest.Proofs.Recording

/-!
# The queries of a collection

A collection reaches producers only by asking them.  `Roster.noted` is a roster that keeps a list of
every question with its answer, and otherwise behaves as the roster that it is made of.

* `collect_noted_projects`: with the list kept, a collection answers the same, leaves the same state
  and reports the same.
* `gather_given`: the answers that are kept are the roster's.
* `probe_noted`: the first pass asks each producer once, in order, without a destination.
-/

namespace Hest

/-! ## Keeping the questions -/

/-- A question to a producer, and what it did. -/
structure Query (π : Type) where
  producer : π
  destination : Option Bytes
  answer : Answer

/-- The roster that keeps a list of every question. -/
def Roster.noted {ω π : Type} (roster : Roster ω π) : Roster (ω × List (Query π)) π where
  locate := Act.onFirst roster.locate
  ask producer destination :=
    Act.recorded (roster.ask producer destination) (⟨producer, destination, ·⟩)

namespace Roster

variable {ω π : Type} (roster : Roster ω π)

theorem locate_noted : Act.Projects roster.noted.locate roster.locate := .onFirst _

theorem ask_noted (p : π) (d : Option Bytes) :
    Act.Projects (roster.noted.ask p d) (roster.ask p d) := .recorded _ _

/-- The state after a producer was asked again what it was asked. -/
def after (w : ω) (q : Query π) : ω := (roster.ask q.producer q.destination w).state

theorem ask_retraced (p : π) (d : Option Bytes) :
    Act.Retraced id roster.after (roster.noted.ask p d) := .recorded fun _ => rfl

/-- A question was answered as the roster answers it, in some state. -/
def Gives (q : Query π) : Prop := ∃ w, q.answer = (roster.ask q.producer q.destination w).value

theorem ask_gives (p : π) (d : Option Bytes) :
    Act.Keeps (fun s => ∀ q ∈ s.2, roster.Gives q) (roster.noted.ask p d) :=
  .recorded fun w => ⟨w, rfl⟩

end Roster

namespace Collection

variable {ω π : Type}

/-! ## Related surroundings -/

section
variable {τ : Type} {R : (α : Type) → Act τ α → Act ω α → Prop} (hR : Act.Compatible R)
  (roster' : Roster τ π) (roster : Roster ω π)
  (hask : ∀ p d, R Answer (roster'.ask p d) (roster.ask p d))
include hR hask

theorem probe_compatible (index : Nat) (total : Totals) (producers : List π) :
    R Totals (probe roster' index total producers) (probe roster index total producers) := by
  induction producers generalizing index total with
  | nil => exact hR.pure _
  | cons p ps ih => exact hR.bind (hask p none) fun _ => hR.bind (hR.report _) fun _ => ih _ _

theorem fill_compatible (index : Nat) (written : Totals) (region : Bytes) (producers : List π) :
    R (Totals × Bytes) (fill roster' index written region producers)
      (fill roster index written region producers) := by
  induction producers generalizing index written region with
  | nil => exact hR.pure _
  | cons p ps ih =>
    unfold fill
    refine hR.bind (hask p (some region)) fun answer => ?_
    rcases verdict index region.length answer.outcome with ⟨_ | t, records⟩
    · exact hR.bind (hR.report _) fun _ => ih _ _ _
    · exact hR.bind (hR.report _) fun _ => hR.bind (ih _ _ _) fun _ => hR.pure _

theorem gather_compatible (producers : List π) (payload : Bytes) :
    R (InPlace CollectError Collected) (gather roster' producers payload)
      (gather roster producers payload) := by
  refine hR.bind (probe_compatible hR roster' roster hask _ _ _) fun declared => ?_
  dsimp only
  split
  · exact hR.pure _
  split
  · exact hR.bind (hR.say _ _ _) fun _ => hR.pure _
  refine hR.bind (fill_compatible hR roster' roster hask _ _ _ _) fun written => ?_
  split
  · exact hR.bind (hR.say _ _ _) fun _ => hR.pure _
  · exact hR.pure _

theorem collect_compatible (hlocate : R _ roster'.locate roster.locate) (payload : Bytes) :
    R (InPlace CollectError Collected) (collect roster' payload) (collect roster payload) := by
  unfold collect
  split
  · exact hR.pure _
  refine hR.bind hlocate fun located => ?_
  split
  · exact gather_compatible hR roster' roster hask _ _
  · exact hR.bind (hR.say _ _ _) fun _ => gather_compatible hR roster' roster hask _ _
  · exact hR.pure _

end

/-! ## The questions of a collection -/

variable (roster : Roster ω π)

theorem probe_noted_projects (index : Nat) (total : Totals) (producers : List π) :
    Act.Projects (probe roster.noted index total producers)
      (probe roster index total producers) :=
  probe_compatible .projects _ _ roster.ask_noted _ _ _

theorem fill_noted_projects (index : Nat) (written : Totals) (region : Bytes)
    (producers : List π) : Act.Projects (fill roster.noted index written region producers)
      (fill roster index written region producers) :=
  fill_compatible .projects _ _ roster.ask_noted _ _ _ _

/-- **Keeping the questions changes nothing** about a collection. -/
theorem collect_noted_projects (payload : Bytes) :
    Act.Projects (collect roster.noted payload) (collect roster payload) :=
  collect_compatible .projects _ _ roster.ask_noted roster.locate_noted _

/-- **Producers change the state only when they are asked**: the questions, one after another, lead
to the state that a collection leaves. -/
theorem collect_retraced (h : ∀ w, (roster.locate w).state = w) (payload : Bytes) :
    Act.Retraced id roster.after (collect roster.noted payload) :=
  collect_compatible (.retraced id roster.after) roster.noted roster.noted roster.ask_retraced
    (Act.Retraced.still fun s => by simp [Roster.noted, h]) _

theorem probe_given (index : Nat) (total : Totals) (producers : List π) (w : ω) :
    ∀ q ∈ (probe roster.noted index total producers (w, [])).state.2, roster.Gives q :=
  probe_compatible (.keeps _) roster.noted roster.noted roster.ask_gives index total producers
    (w, []) (by simp)

/-- **Every question of a collection is answered by the roster.** -/
theorem gather_given (producers : List π) (payload : Bytes) (w : ω) :
    ∀ q ∈ (gather roster.noted producers payload (w, [])).state.2, roster.Gives q :=
  gather_compatible (.keeps _) roster.noted roster.noted roster.ask_gives producers payload
    (w, []) (by simp)

/-- **The first pass asks each producer once**, in order, without a destination. -/
theorem probe_noted (index : Nat) (total : Totals) (producers : List π) (w : ω)
    (before : List (Query π)) : ∃ queries,
      (probe roster.noted index total producers (w, before)).state.2 = before ++ queries ∧
      queries.map (·.producer) = producers ∧ ∀ q ∈ queries, q.destination = none := by
  induction producers generalizing index total w before with
  | nil => exact ⟨[], by simp [probe]⟩
  | cons p ps ih =>
    let a := (roster.ask p none w).value
    obtain ⟨queries, hs, hp, hd⟩ := ih (index + 1) (tally index total a.outcome).1
      (roster.ask p none w).state (before ++ [⟨p, none, a⟩])
    refine ⟨⟨p, none, a⟩ :: queries, ?_, by simp [hp], by simpa using hd⟩
    rw [← List.append_cons] at hs
    exact hs

end Collection

end Hest
