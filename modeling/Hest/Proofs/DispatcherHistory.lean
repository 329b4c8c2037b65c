import Hest.Proofs.DispatcherRules
import Hest.Proofs.Runs
import Hest.Proofs.UniqueKeys

/-!
# The history of a dispatcher

A run is any sequence of calls that register and unregister handlers on one dispatcher.  What comes
of the calls is kept as a list of events.

* `InForce` says which handler a history leaves under a GUID: the one of the last call on this GUID
  that succeeded, if that call registered one.
* `Kept` is what a run keeps of its history and the dispatcher; `kept_run` carries it along a run,
  over the four things that a call can do (`Step`).
* `run_filter`: for one GUID a run is the same as without the calls on others.
* `history_of_dispatcher`: which calls succeed and what they change, and which handler a message
  runs.
-/

namespace Hest.Dispatcher

variable {η ω : Type}

/-! ## Runs -/

/-- A call on a dispatcher. -/
inductive Call (η : Type) where
  | register (guid : Guid) (handler : η)
  | unregister (guid : Guid)

/-- The GUID that a call is about. -/
def Call.guid : Call η → Guid
  | .register guid _ | .unregister guid => guid

/-- A call and its answer. -/
structure Event (η : Type) where
  call : Call η
  result : Except Status Unit

/-- Makes a call and gives what came of it. -/
def perform : Call η → Act (Dispatcher η) (Event η)
  | .register guid handler => do return ⟨.register guid handler, ← register guid handler⟩
  | .unregister guid => do return ⟨.unregister guid, ← unregister guid⟩

/-- `handler` was registered under `guid`, and no call on `guid` has succeeded since. -/
def InForce (history : List (Event η)) (guid : Guid) (handler : η) : Prop :=
  ∃ before after, history = before ++ ⟨.register guid handler, .ok ()⟩ :: after ∧
    ∀ e ∈ after, e.call.guid = guid → e.result ≠ .ok ()

theorem inForce_iff_latest {history : List (Event η)} {g : Guid} {h : η} :
    InForce history g h ↔ Act.Latest (· = ⟨.register g h, .ok ()⟩)
      (fun e => e.call.guid = g ∧ e.result = .ok ()) history := by
  constructor
  · rintro ⟨before, after, heq, hlater⟩
    exact ⟨before, _, after, heq, rfl, fun e he ⟨hg, hok⟩ => hlater e he hg hok⟩
  · rintro ⟨before, _, after, heq, rfl, hlater⟩
    exact ⟨before, after, heq, fun e he hg hok => hlater e he ⟨hg, hok⟩⟩

theorem inForce_concat {history : List (Event η)} {e : Event η} {g : Guid} {h : η} :
    InForce (history ++ [e]) g h ↔ e = ⟨.register g h, .ok ()⟩ ∨
      (InForce history g h ∧ (e.call.guid = g → e.result ≠ .ok ())) := by
  rw [inForce_iff_latest, inForce_iff_latest, Act.latest_concat, not_and]

/-! ## One call -/

/-- What one call can do to a dispatcher, with the event that it leaves. -/
inductive Step (d : Dispatcher η) : Event η → Dispatcher η → Prop
  | registered {g h} : d.handler? g = none →
      Step d ⟨.register g h, .ok ()⟩ { routes := d.routes ++ [(g, h)] }
  | taken {g h h'} : d.handler? g = some h' →
      Step d ⟨.register g h, .error .alreadyStarted⟩ d
  | unregistered {g h} : d.handler? g = some h →
      Step d ⟨.unregister g, .ok ()⟩ { routes := d.routes.eraseP (·.1 = g) }
  | missing {g} : d.handler? g = none →
      Step d ⟨.unregister g, .error .notFound⟩ d

/-- **A call does one of four things.** -/
theorem step_perform (c : Call η) (d : Dispatcher η) :
    Step d (perform c d).value (perform c d).state := by
  cases c with
  | register g h =>
    cases hd : d.handler? g with
    | none =>
      obtain ⟨hv, hs⟩ := register_of_none hd h
      simpa [perform, hv, hs] using Step.registered hd
    | some h' =>
      obtain ⟨hv, hs⟩ := register_of_some hd h
      simpa [perform, hv, hs] using Step.taken hd
  | unregister g =>
    cases hd : d.handler? g with
    | none =>
      obtain ⟨hv, hs⟩ := unregister_of_none hd
      simpa [perform, hv, hs] using Step.missing hd
    | some h =>
      obtain ⟨hv, hs⟩ := unregister_of_some hd
      simpa [perform, hv, hs] using Step.unregistered hd

section
variable {d d' : Dispatcher η} {e : Event η} {g : Guid} {h : η}

/-- The handler of a GUID is the one just registered, or the one from before if the call did not
change it. -/
theorem handler?_step (hunique : (d.routes.map Prod.fst).Nodup) (s : Step d e d') :
    d'.handler? g = some h ↔
    e = ⟨.register g h, .ok ()⟩ ∨
      (d.handler? g = some h ∧ (e.call.guid = g → e.result ≠ .ok ())) := by
  cases s with
  | @registered g' h' hd =>
    have hnew : ({ routes := d.routes ++ [(g', h')] } : Dispatcher η).handler? g =
        if g = g' then some h' else d.handler? g := by
      rw [handler?, List.lookup_append, ← handler?]
      split
      · subst g; simp [hd]
      · rename_i hg; simp [List.lookup_cons, beq_false_of_ne hg]
    rw [hnew]
    by_cases hg : g = g'
    · subst g; simp [hd]
    · simp [hg, Ne.symm hg, Call.guid]
  | @unregistered g' h' hd =>
    -- there is no second handler of this GUID that would come to light
    rw [handler?, UniqueKeys.lookup_eraseP hunique, ← handler?]
    by_cases hg : g = g'
    · subst g; simp [Call.guid]
    · simp [hg, Ne.symm hg, Call.guid]
  | taken hd | missing hd => simp

theorem nodup_step (hunique : (d.routes.map Prod.fst).Nodup) (s : Step d e d') :
    (d'.routes.map Prod.fst).Nodup := by
  cases s with
  | @registered g h hd =>
    have hnew : g ∉ d.routes.map Prod.fst := UniqueKeys.lookup_eq_none_iff_notMem.1 hd
    rw [List.map_append, List.map_singleton]
    exact List.nodup_append_comm.1 (List.nodup_cons.2 ⟨hnew, hunique⟩)
  | unregistered => exact (List.eraseP_sublist.map _).nodup hunique
  | taken | missing => exact hunique

end

/-! ## What a run keeps -/

/-- What a run from an empty dispatcher keeps of its history and the dispatcher. -/
structure Kept (history : List (Event η)) (d : Dispatcher η) : Prop where
  unique : (d.routes.map Prod.fst).Nodup
  inForce : ∀ g h, d.handler? g = some h ↔ InForce history g h

theorem kept_nil : Kept ([] : List (Event η)) {} where
  unique := .nil
  inForce := by simp [handler?, InForce]

/-- **What holds of a history and its dispatcher holds after one more call.** -/
theorem kept_step {history : List (Event η)} {d d' : Dispatcher η} {e : Event η}
    (hk : Kept history d) (s : Step d e d') : Kept (history ++ [e]) d' where
  unique := nodup_step hk.unique s
  inForce g h := by rw [handler?_step hk.unique s, inForce_concat, hk.inForce]

/-- **What a run keeps.** -/
theorem kept_run (calls : List (Call η)) :
    Kept (Act.forEach perform calls ({} : Dispatcher η)).value
      (Act.forEach perform calls {}).state :=
  Act.invariant_forEach (P := fun _ history d => Kept history d)
    (fun c hk => kept_step hk (step_perform c _)) kept_nil calls

/-! ## Calls on other GUIDs -/

@[simp] theorem call_perform (c : Call η) (d : Dispatcher η) : (perform c d).value.call = c := by
  cases c <;> rfl

section
variable {d d' : Dispatcher η} {c : Call η} {g : Guid}
  (hunique : (d.routes.map Prod.fst).Nodup) (hunique' : (d'.routes.map Prod.fst).Nodup)
include hunique

/-- A call leaves the handlers of other GUIDs. -/
theorem handler?_perform_other (hc : c.guid ≠ g) :
    (perform c d).state.handler? g = d.handler? g := by
  refine Option.ext fun h => ?_
  have hevent : (perform c d).value ≠ ⟨.register g h, .ok ()⟩ := by
    intro heq
    have hcall := congrArg Event.call heq
    rw [call_perform] at hcall
    exact hc (congrArg Call.guid hcall)
  rw [handler?_step hunique (step_perform c d), call_perform]
  simp [hevent, hc]

include hunique'

/-- What comes of a call is told by the handler of its GUID. -/
theorem perform_congr (hsame : d.handler? c.guid = d'.handler? c.guid) :
    (perform c d).value = (perform c d').value ∧
      (perform c d).state.handler? c.guid = (perform c d').state.handler? c.guid := by
  have hvalue : (perform c d).value = (perform c d').value := by
    cases c with
    | register g h =>
      replace hsame : d.handler? g = d'.handler? g := hsame
      cases hd : d.handler? g with
      | none => simp [perform, register_of_none hd, register_of_none (hsame ▸ hd)]
      | some h' => simp [perform, register_of_some hd, register_of_some (hsame ▸ hd)]
    | unregister g =>
      replace hsame : d.handler? g = d'.handler? g := hsame
      cases hd : d.handler? g with
      | none => simp [perform, unregister_of_none hd, unregister_of_none (hsame ▸ hd)]
      | some h => simp [perform, unregister_of_some hd, unregister_of_some (hsame ▸ hd)]
  refine ⟨hvalue, Option.ext fun h => ?_⟩
  rw [handler?_step hunique (step_perform c d), handler?_step hunique' (step_perform c d'), hvalue,
    hsame]

/-- **For one GUID a run is the same as without the calls on others.** -/
theorem run_filter (hsame : d.handler? g = d'.handler? g) (calls : List (Call η)) :
    (Act.forEach perform calls d).value.filter (·.call.guid = g) =
        (Act.forEach perform (calls.filter (·.guid = g)) d').value ∧
      (Act.forEach perform calls d).state.handler? g =
        (Act.forEach perform (calls.filter (·.guid = g)) d').state.handler? g := by
  induction calls generalizing d d' with
  | nil => exact ⟨rfl, hsame⟩
  | cons c cs ih =>
    by_cases hc : c.guid = g
    · subst hc
      obtain ⟨hvalue, hstate⟩ := perform_congr hunique hunique' hsame
      obtain ⟨hevents, hend⟩ := ih (nodup_step hunique (step_perform c d))
        (nodup_step hunique' (step_perform c d')) hstate
      simp [Act.forEach, hevents, hend, hvalue]
    · obtain ⟨hevents, hend⟩ := ih (nodup_step hunique (step_perform c d)) hunique'
        ((handler?_perform_other hunique hc).trans hsame)
      simp [Act.forEach, hevents, hend, hc]

end

/-! ## The history -/

/-- **The history of a dispatcher.**  In every run of calls on one dispatcher, from empty on:

* no GUID occurs twice;
* to register fails just when the GUID has a handler in force, and to unregister just when it has
  none; a call that fails changes nothing, and one that succeeds adds one entry or takes one out;
* the handler of a GUID is the one in force, so a message runs this one, or none;
* the calls on one GUID, their answers and its handler are what they are without the other calls. -/
theorem history_of_dispatcher (calls : List (Call η)) :
    let run := Act.forEach perform calls ({} : Dispatcher η)
    let history := run.value
    let d := run.state
    (d.routes.map Prod.fst).Nodup ∧
    (∀ g h, ((∃ h', InForce history g h') →
        (register g h d).value = .error .alreadyStarted ∧ (register g h d).state = d) ∧
      ((∀ h', ¬InForce history g h') → (register g h d).value = .ok () ∧
        (register g h d).state = { routes := d.routes ++ [(g, h)] })) ∧
    (∀ g, ((∀ h, ¬InForce history g h) →
        (unregister g d).value = .error .notFound ∧ (unregister g d).state = d) ∧
      (∀ h, InForce history g h → (unregister g d).value = .ok () ∧
        ∃ front back, d.routes = front ++ (g, h) :: back ∧
          (unregister g d).state = { routes := front ++ back })) ∧
    (∀ g h, d.handler? g = some h ↔ InForce history g h) ∧
    (∀ message header, MessageHeader.readFrom message = .ok header →
      header.payloadLength.toNat ≤ message.length - MessageHeader.size →
      ∀ (serve : η → Service ω) (w : ω),
      (∀ handler, InForce history header.recipient handler →
        ∃ payload e, payload = message.window MessageHeader.size header.payloadLength.toNat ∧
          e = serve handler payload w ∧
          (d.communicate serve message w).value = ⟨e.value.result,
            message.overlayAt MessageHeader.size (payload.overlay e.value.buffer)⟩ ∧
          (d.communicate serve message w).state = e.state) ∧
      ((∀ handler, ¬InForce history header.recipient handler) →
        (d.communicate serve message w).value = ⟨.error .notFound, message⟩ ∧
          (d.communicate serve message w).state = w)) ∧
    (∀ g, history.filter (·.call.guid = g) =
        (Act.forEach perform (calls.filter (·.guid = g)) ({} : Dispatcher η)).value ∧
      d.handler? g = (Act.forEach perform (calls.filter (·.guid = g)) {}).state.handler? g) := by
  intro run history d
  have hk : Kept history d := kept_run calls
  have hnone {g : Guid} (hg : ∀ h, ¬InForce history g h) : d.handler? g = none :=
    Option.eq_none_iff_forall_ne_some.2 fun h hd => hg h ((hk.inForce g h).1 hd)
  refine ⟨hk.unique, fun g h => ⟨?_, fun hg => register_of_none (hnone hg) h⟩,
    fun g => ⟨fun hg => unregister_of_none (hnone hg), ?_⟩, hk.inForce, ?_,
    fun g => run_filter kept_nil.unique kept_nil.unique rfl calls⟩
  · rintro ⟨h', hg⟩
    exact register_of_some ((hk.inForce g h').2 hg) h
  · intro h hg
    have hd : d.handler? g = some h := (hk.inForce g h).2 hg
    obtain ⟨hvalue, hstate⟩ := unregister_of_some hd
    obtain ⟨front, back, heq, hrest⟩ := UniqueKeys.exists_append_of_lookup hd
    exact ⟨hvalue, front, back, heq, by rw [hstate, hrest]⟩
  · intro message header hread hroom serve w
    exact ⟨fun handler hg => communicate_of_handler hread hroom ((hk.inForce _ _).2 hg) serve w,
      fun hg => communicate_of_none hread hroom (hnone hg) serve w⟩

end Hest.Dispatcher
