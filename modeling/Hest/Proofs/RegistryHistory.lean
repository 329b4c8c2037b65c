import Hest.Proofs.Runs
import Hest.Proofs.UniqueKeys
import Hest.Registry

/-!
# The history of a registry

A run is any sequence of calls on one registry by a caller who keeps the snapshots that look-ups
give.  What the registry holds after a run is told by the calls alone.

* `Stands` says which installations stand after calls: those that no later call has ended.
  `standing` lists them, and `mem_standing_iff` and `standing_pairwise` say that it lists exactly
  these, in the order of installation.
* `Kept` is what a run keeps of its calls, its history and the registry; `kept_run` carries it along
  a run.
* `history_of_registry`: the handles are issued in order and never again, the registry holds what
  stands, a handle ends the installation that it was issued for, once, and a snapshot stays what it
  was when it was taken.
-/

namespace Hest.Registry

variable {π : Type}

/-! ## Runs -/

/-- A call on a registry. -/
inductive Call (π : Type) where
  | install (producer : π)
  | uninstall (handle : Handle)
  | locate

/-- A call and its answer. -/
inductive Event (π : Type) where
  | install (producer : π) (handle : Handle)
  | uninstall (handle : Handle) (result : Except LookupError π)
  | locate (result : Except LookupError (List π))

/-- Makes a call and gives what came of it.  Beside the registry there are the snapshots that its
caller keeps: each look-up that succeeds adds one. -/
def perform : Call π → Act (Registry π × List (List π)) (Event π)
  | .install producer => do return .install producer (← Act.onFirst (install producer))
  | .uninstall handle => do return .uninstall handle (← Act.onFirst (uninstall handle))
  | .locate => do
    let result := (← Act.onFirst Act.get).locate
    Act.onSecond (Act.modify (· ++ result.toOption.toList))
    return .locate result

/-! ## What calls leave standing -/

/-- Whether a call installs a producer. -/
def Call.installs : Call π → Bool
  | .install _ => true
  | _ => false

/-- Whether a call ends the installation of a handle. -/
def Call.ends (handle : Handle) : Call π → Bool
  | .uninstall h => h = handle
  | _ => false

/-- The number of installations among calls. -/
def installs (calls : List (Call π)) : Nat := calls.countP Call.installs

/-- The call that issued `handle` installed `producer`, and no call since has ended that. -/
def Stands (calls : List (Call π)) (handle : Handle) (producer : π) : Prop :=
  ∃ before after, calls = before ++ .install producer :: after ∧
    handle.number = installs before ∧ after.any (·.ends handle) = false

/-- The installations that calls leave standing, in order; the first call that installs has the
handle `n`. -/
def standing (n : Nat) : List (Call π) → List (Handle × π)
  | [] => []
  | .install producer :: cs =>
    (if cs.any (·.ends ⟨n⟩) then [] else [(⟨n⟩, producer)]) ++ standing (n + 1) cs
  | .uninstall _ :: cs | .locate :: cs => standing n cs

@[simp] theorem ends_install (h : Handle) (p : π) : (Call.install p).ends h = false := rfl

@[simp] theorem ends_uninstall (h h' : Handle) :
    (Call.uninstall h' : Call π).ends h = decide (h' = h) := rfl

@[simp] theorem ends_locate (h : Handle) : (Call.locate : Call π).ends h = false := rfl

@[simp] theorem installs_nil : installs ([] : List (Call π)) = 0 := rfl

@[simp] theorem installs_install (p : π) (cs : List (Call π)) :
    installs (.install p :: cs) = installs cs + 1 := List.countP_cons_of_pos rfl

@[simp] theorem installs_uninstall (h : Handle) (cs : List (Call π)) :
    installs (.uninstall h :: cs) = installs cs := List.countP_cons_of_neg (by simp [Call.installs])

@[simp] theorem installs_locate (cs : List (Call π)) :
    installs (.locate :: cs) = installs cs := List.countP_cons_of_neg (by simp [Call.installs])

@[simp] theorem installs_append (cs cs' : List (Call π)) :
    installs (cs ++ cs') = installs cs + installs cs' := List.countP_append

/-- An installation among calls is the first of them, or among the others. -/
theorem exists_split_cons {c : Call π} {cs : List (Call π)} {p : π}
    {P : List (Call π) → List (Call π) → Prop} :
    (∃ before after, c :: cs = before ++ .install p :: after ∧ P before after) ↔
      (c = .install p ∧ P [] cs) ∨
        ∃ before after, cs = before ++ .install p :: after ∧ P (c :: before) after := by
  constructor
  · rintro ⟨before, after, heq, hP⟩
    cases before with
    | nil => cases heq; exact .inl ⟨rfl, hP⟩
    | cons b before => cases heq; exact .inr ⟨before, after, rfl, hP⟩
  · rintro (⟨rfl, hP⟩ | ⟨before, after, rfl, hP⟩)
    · exact ⟨[], cs, rfl, hP⟩
    · exact ⟨c :: before, after, rfl, hP⟩

/-- **What is listed is what stands.** -/
theorem mem_standing_iff {n : Nat} {calls : List (Call π)} {h : Handle} {p : π} :
    (h, p) ∈ standing n calls ↔ ∃ before after, calls = before ++ .install p :: after ∧
      h.number = n + installs before ∧ after.any (·.ends h) = false := by
  induction calls generalizing n with
  | nil => simp [standing]
  | cons c cs ih =>
    rw [exists_split_cons]
    cases c with
    | uninstall | locate => simp [standing, ih]
    | install p' =>
      have hfirst : (h, p) ∈ (if cs.any (·.ends ⟨n⟩) then [] else [(⟨n⟩, p')]) ↔
          Call.install p' = .install p ∧ h.number = n ∧ cs.any (·.ends h) = false := by
        obtain ⟨number⟩ := h
        by_cases hn : number = n
        · subst hn
          cases cs.any (·.ends ⟨number⟩) <;> simp [eq_comm]
        · simp [hn]
      rw [standing, List.mem_append, hfirst, ih]
      simp [Nat.add_assoc, Nat.add_comm 1]

theorem le_of_mem_standing {n : Nat} {calls : List (Call π)} {x : Handle × π}
    (hx : x ∈ standing n calls) : n ≤ x.1.number := by
  obtain ⟨before, after, -, hnumber, -⟩ := mem_standing_iff.1 hx
  omega

/-- **What stands is listed in the order of installation.** -/
theorem standing_pairwise (n : Nat) (calls : List (Call π)) :
    (standing n calls).Pairwise (·.1.number < ·.1.number) := by
  induction calls generalizing n with
  | nil => exact .nil
  | cons c cs ih =>
    cases c with
    | install p =>
      rw [standing]
      split
      · exact ih _
      · exact .cons (fun x hx => le_of_mem_standing hx) (ih _)
    | uninstall | locate => exact ih n

theorem standing_concat_install (n : Nat) (calls : List (Call π)) (p : π) :
    standing n (calls ++ [.install p]) = standing n calls ++ [(⟨n + installs calls⟩, p)] := by
  induction calls generalizing n with
  | nil => simp [standing]
  | cons c cs ih =>
    cases c with
    | install p' => simp [standing, ih, Nat.add_assoc, Nat.add_comm 1]
    | uninstall | locate => simp [standing, ih]

/-- A call that ends an installation takes it off the list. -/
theorem standing_concat_uninstall (n : Nat) (calls : List (Call π)) (h : Handle) :
    standing n (calls ++ [.uninstall h]) = (standing n calls).filter (·.1 ≠ h) := by
  induction calls generalizing n with
  | nil => simp [standing]
  | cons c cs ih =>
    cases c with
    | install p' =>
      rw [List.cons_append, standing, standing, ih, List.filter_append, List.any_append]
      congr 1
      by_cases hend : h = ⟨n⟩
      · simp [hend]
      · cases cs.any (·.ends ⟨n⟩) <;> simp [hend, Ne.symm hend]
    | uninstall | locate => simp [standing, ih]

theorem standing_concat_locate (n : Nat) (calls : List (Call π)) :
    standing n (calls ++ [.locate]) = standing n calls := by
  induction calls generalizing n with
  | nil => simp [standing]
  | cons c cs ih =>
    cases c with
    | install p' => simp [standing, ih]
    | uninstall | locate => simp [standing, ih]

/-- No handle stands twice. -/
theorem standing_nodup (n : Nat) (calls : List (Call π)) :
    ((standing n calls).map Prod.fst).Nodup := by
  rw [List.Nodup, List.pairwise_map]
  refine (standing_pairwise n calls).imp fun hlt heq => ?_
  rw [heq] at hlt
  exact Nat.lt_irrefl _ hlt

/-! ## What a run keeps -/

/-- The handle that an event issued. -/
def Event.handle? : Event π → Option Handle
  | .install _ handle => some handle
  | _ => none

/-- What a run from an empty registry keeps of its calls, its history and the registry. -/
structure Kept (calls : List (Call π)) (history : List (Event π)) (r : Registry π) : Prop where
  issued : r.issued = installs calls
  handles : history.filterMap Event.handle? = (List.range r.issued).map Handle.mk
  installed : r.installed = standing 0 calls

theorem kept_nil : Kept ([] : List (Call π)) [] {} := ⟨rfl, rfl, rfl⟩

section
variable {calls : List (Call π)} {history : List (Event π)} {r : Registry π} {h : Handle} {p : π}

theorem Kept.find?_eq_some_iff (hk : Kept calls history r) :
    r.find? h = some p ↔ Stands calls h p := by
  have hunique := standing_nodup 0 calls
  rw [find?, hk.installed, UniqueKeys.lookup_eq_some_iff_mem hunique, mem_standing_iff]
  simp [Stands]

theorem uninstall_of_some (hf : r.find? h = some p) :
    (uninstall h r).value = .ok p ∧
      (uninstall h r).state = { r with installed := r.installed.eraseP (·.1 = h) } := by
  simp [uninstall, hf]

theorem uninstall_of_none (hf : r.find? h = none) :
    (uninstall h r).value = .error .notFound ∧ (uninstall h r).state = r := by
  simp [uninstall, hf]

theorem uninstall_eq_ok_iff : (uninstall h r).value = .ok p ↔ r.find? h = some p := by
  cases hf : r.find? h with
  | some p' => simp [(uninstall_of_some hf).1]
  | none => simp [(uninstall_of_none hf).1]

/-- **What holds of calls and the registry holds after one more call.** -/
theorem kept_step (hk : Kept calls history r) (c : Call π) (shelf : List (List π)) :
    Kept (calls ++ [c]) (history ++ [(perform c (r, shelf)).value])
      (perform c (r, shelf)).state.1 := by
  cases c with
  | install p =>
    constructor
    · simp [perform, install, hk.issued]
    · simp [perform, install, hk.handles, Event.handle?, List.range_succ]
    · simp [perform, install, hk.issued, hk.installed, standing_concat_install]
  | uninstall h =>
    have hstate : (uninstall h r).state = { r with installed := r.installed.eraseP (·.1 = h) } := by
      cases hf : r.find? h with
      | some p => exact (uninstall_of_some hf).2
      | none =>
        -- what is not installed does not go from the list either
        rw [(uninstall_of_none hf).2, UniqueKeys.eraseP_of_lookup_eq_none hf]
    -- no handle stands twice, so the one entry is all that goes
    have hrest : r.installed.eraseP (·.1 = h) = standing 0 (calls ++ [.uninstall h]) := by
      rw [hk.installed, UniqueKeys.eraseP_eq_filter (standing_nodup 0 calls),
        standing_concat_uninstall]
    constructor
    · simp [perform, hstate, hk.issued]
    · simp [perform, hstate, hk.handles, Event.handle?]
    · simp [perform, hstate, hrest]
  | locate =>
    constructor
    · simp [perform, hk.issued]
    · simp [perform, hk.handles, Event.handle?]
    · simp [perform, hk.installed, standing_concat_locate]

end

/-- **What a run keeps.** -/
theorem kept_run (calls : List (Call π)) :
    Kept calls (Act.forEach perform calls (({} : Registry π), [])).value
      (Act.forEach perform calls ({}, [])).state.1 :=
  Act.invariant_forEach (P := fun calls history (s : Registry π × _) => Kept calls history s.1)
    (fun c hk => kept_step hk c _) kept_nil calls

/-- The snapshots that a caller has stay what they are. -/
theorem shelf_kept (calls : List (Call π)) (s : Registry π × List (List π)) :
    s.2 <+: (Act.forEach perform calls s).state.2 := by
  refine Act.invariant_forEach (P := fun _ _ (t : _ × List (List π)) => s.2 <+: t.2)
    (fun c h => h.trans ?_) List.prefix_rfl calls
  cases c with
  | install | uninstall => exact List.prefix_rfl
  | locate => exact List.prefix_append _ _

/-- **A snapshot stays as it was taken.** -/
theorem snapshot_kept (before after : List (Call π)) (hne : standing 0 before ≠ []) :
    (Act.forEach perform before ({}, [])).state.2 ++ [(standing 0 before).map (·.2)] <+:
      (Act.forEach perform (before ++ .locate :: after) ({}, [])).state.2 := by
  have hk := kept_run before
  have htaken : (perform .locate
      (Act.forEach perform before (({} : Registry π), [])).state).state.2 =
      (Act.forEach perform before ({}, [])).state.2 ++ [(standing 0 before).map (·.2)] := by
    simp [perform, locate, isEmpty, size, hk.installed, hne, Except.toOption]
  rw [← htaken, Act.state_forEach_append]
  exact shelf_kept after _

/-- **The history of a registry.**  In every run of calls on one registry, from empty on:

* the handles that are issued are numbered from 0, one after another, so those of fewer than
  `2 ^ 64` installations fit 64 bits;
* the registry holds the installations that stand, in the order of installation, and these are the
  ones that a look-up gives, unless there are none;
* to uninstall a handle succeeds just when its installation stands; it gives the producer that was
  installed and takes this one entry out; else nothing changes;
* a snapshot stays with its caller as it was taken, whatever is called later. -/
theorem history_of_registry (calls : List (Call π)) :
    let run := Act.forEach perform calls (({} : Registry π), [])
    let r := run.state.1
    run.value.filterMap Event.handle? = (List.range (installs calls)).map Handle.mk ∧
    r.installed = standing 0 calls ∧
    (∀ h p, (h, p) ∈ r.installed ↔ Stands calls h p) ∧
    r.installed.Pairwise (·.1.number < ·.1.number) ∧
    r.size = (standing 0 calls).length ∧
    (r.isEmpty ↔ ∀ h p, ¬Stands calls h p) ∧
    r.locate = (if standing 0 calls = [] then .error .notFound
      else .ok ((standing 0 calls).map (·.2))) ∧
    (∀ h p, (uninstall h r).value = .ok p ↔ Stands calls h p) ∧
    (∀ h p, Stands calls h p → ∃ front back, r.installed = front ++ (h, p) :: back ∧
      (uninstall h r).state = { r with installed := front ++ back }) ∧
    (∀ h, (∀ p, ¬Stands calls h p) →
      (uninstall h r).value = .error .notFound ∧ (uninstall h r).state = r) ∧
    (∀ before after, calls = before ++ .locate :: after → standing 0 before ≠ [] →
      (Act.forEach perform before ({}, [])).state.2 ++ [(standing 0 before).map (·.2)] <+:
        run.state.2) := by
  intro run r
  have hk : Kept calls run.value r := kept_run calls
  have hmem (h : Handle) (p : π) : (h, p) ∈ r.installed ↔ Stands calls h p := by
    rw [hk.installed, mem_standing_iff]
    simp [Stands]
  have hnone : standing 0 calls = [] ↔ ∀ h p, ¬Stands calls h p := by
    rw [← hk.installed, List.eq_nil_iff_forall_not_mem, Prod.forall]
    simp only [hmem]
  refine ⟨?_, hk.installed, hmem, ?_, ?_, ?_, ?_,
    fun _ _ => uninstall_eq_ok_iff.trans hk.find?_eq_some_iff, ?_, ?_, ?_⟩
  · rw [hk.handles, hk.issued]
  · rw [hk.installed]
    exact standing_pairwise 0 calls
  · rw [size, hk.installed]
  · rw [← hnone, isEmpty, size, hk.installed]
    simp
  · simp [locate, isEmpty, size, hk.installed]
  · intro h p hs
    have hfound : r.find? h = some p := hk.find?_eq_some_iff.2 hs
    obtain ⟨front, back, heq, hrest⟩ := UniqueKeys.exists_append_of_lookup hfound
    refine ⟨front, back, heq, ?_⟩
    rw [(uninstall_of_some hfound).2, hrest]
  · intro h hs
    refine uninstall_of_none (Option.eq_none_iff_forall_ne_some.2 fun p hf => ?_)
    exact hs p (hk.find?_eq_some_iff.1 hf)
  · rintro before after rfl hne
    exact snapshot_kept before after hne

end Hest.Registry
