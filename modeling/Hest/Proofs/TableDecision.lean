import Hest.Proofs.TableHistory
import Mathlib.Tactic.SplitIfs

/-!
# How the table decides

Which calls on a table succeed, in which order the reasons against them are looked at, and what a
call that fails leaves behind: nothing.

* `refusal?` is the order of the reasons against a block; `append_decided` shows that appending
  follows it.
* `install_idle` and `install_offered`: what publishing answers, and what the publisher is shown.
* `Step.eq_of_failed` and `performAll_succeeding`: a failed call leaves the table as it was, so a
  run without its failed calls goes the same way.
* `calls_decided` joins these.
-/

namespace Hest.Table

variable {ω : Type}

/-! ## Appending -/

/-- The length that a table would begin with: its own, or that of its header. -/
def baseLength (t : Table) : Nat := if t.isBuilt then t.length else ErrorSourceHeader.size

/-- Why a block is refused, if it is, the reasons in the order in which they are looked at: it has
no such bytes, the table was published, its length leaves 32 bits, its number of descriptors
does. -/
def refusal? (t : Table) (block : Bytes) (length count : Nat) : Option TableError :=
  if block = [] ∨ length = 0 ∨ block.length < length then some .invalidArgument
  else if t.isInstalled then some .alreadyInstalled
  else if 2 ^ 32 - 1 < t.baseLength + length then some .outOfMemory
  else if 2 ^ 32 - 1 < count ∨ 2 ^ 32 - 1 < t.sourceCount.toNat + count then
    some .invalidArgument
  else none

theorem usable_iff (block : Bytes) (length : Nat) :
    usable block length ↔ ¬(block = [] ∨ length = 0 ∨ block.length < length) := by
  simp only [usable, Bool.and_eq_true, decide_eq_true_eq, bne_iff_ne, Bool.not_eq_true',
    List.isEmpty_eq_false_iff]
  grind

theorem baseLength_eq {t : Table} (h : t.isInstalled = false) :
    t.baseLength = 40 + t.descriptors.length := by
  cases hphase : t.phase with
  | empty => simp [baseLength, isBuilt, descriptors, hphase, ErrorSourceHeader.size]
  | building c =>
    simp [baseLength, isBuilt, descriptors, hphase, Table.length, bytes, c.length_bytes]
  | installed => simp [isInstalled, hphase] at h

theorem length_grown {t : Table} {block : Bytes} {length : Nat} (hi : t.isInstalled = false)
    (hl : length ≤ block.length) :
    40 + (t.descriptors ++ block.take length).length = t.baseLength + length := by
  rw [baseLength_eq hi, List.length_append, List.length_take, Nat.min_eq_left hl, Nat.add_assoc]

section
variable {t : Table} {block : Bytes} {length : Nat}

theorem extend_of_unusable (count : Nat) (hu : ¬usable block length) :
    t.extend block length count = .error .invalidArgument := by
  simp [extend, hu]

theorem extend_of_installed (count : Nat) (hu : usable block length) (hi : t.isInstalled) :
    t.extend block length count = .error .alreadyInstalled := by
  cases hphase : t.phase with
  | installed => simp [extend, hu, hphase]
  | empty | building => simp [isInstalled, hphase] at hi

variable (hu : usable block length) (hi : t.isInstalled = false) (hl : length ≤ block.length)
include hu hi hl

theorem extend_of_long (count : Nat) (h : 2 ^ 32 ≤ t.baseLength + length) :
    t.extend block length count = .error .outOfMemory := by
  have hlong : ¬40 + (t.descriptors ++ block.take length).length < UInt32.size := by
    rw [length_grown hi hl]
    exact Nat.not_lt.2 h
  cases hphase : t.phase with
  | installed => simp [isInstalled, hphase] at hi
  | empty | building => simp only [extend, hu, hphase, dif_neg hlong]; rfl

variable (hfits : t.baseLength + length < 2 ^ 32)
include hfits

theorem extend_of_many {count : Nat} (h : 2 ^ 32 ≤ t.sourceCount.toNat + count) :
    t.extend block length count = .error .invalidArgument := by
  have hshort : 40 + (t.descriptors ++ block.take length).length < UInt32.size := by
    rw [length_grown hi hl]
    exact hfits
  have hmany : ¬t.sourceCount.toNat + count < UInt32.size := Nat.not_lt.2 h
  cases hphase : t.phase with
  | installed => simp [isInstalled, hphase] at hi
  | empty | building => simp only [extend, hu, hphase, dif_pos hshort, if_neg hmany]; rfl

theorem extend_of_fits {count : Nat} (h : t.sourceCount.toNat + count < 2 ^ 32) :
    ∃ grown, t.extend block length count = .ok grown := by
  have hshort : 40 + (t.descriptors ++ block.take length).length < UInt32.size := by
    rw [length_grown hi hl]
    exact hfits
  exact ⟨_, extend_eq_ok_iff.2 ⟨hu, hi, ⟨_, .ofNat (t.sourceCount.toNat + count), hshort⟩, rfl, rfl,
    UInt32.toNat_ofNat_of_lt' h⟩⟩

end

/-- **A block is appended unless there is a reason against it**; else the first reason is the
answer. -/
theorem append_decided (t : Table) (block : Bytes) (length count : Nat) :
    (append block length count t).value =
      match refusal? t block length count with
      | some e => .error e
      | none => .ok () := by
  unfold refusal?
  split_ifs with hbytes hi hlong hmany
  · exact (append_of_error (extend_of_unusable count (by rwa [usable_iff, not_not]))).1
  all_goals
    have hu := (usable_iff block length).2 hbytes
    have hl := length_le_of_usable hu
  · exact (append_of_error (extend_of_installed count hu hi)).1
  all_goals rw [Bool.not_eq_true] at hi
  · exact (append_of_error (extend_of_long hu hi hl count (by omega))).1
  · exact (append_of_error (extend_of_many hu hi hl (by omega) (by omega))).1
  · obtain ⟨grown, hgrown⟩ := extend_of_fits hu hi hl (by omega : _ < 2 ^ 32)
      (by omega : t.sourceCount.toNat + count < 2 ^ 32)
    exact (append_of_ok hgrown).1

/-! ## Publishing -/

/-- The table as a publisher is shown it: with the checksum in its place. -/
def offered (t : Table) : Bytes :=
  t.bytes.set DescriptionHeader.checksumOffset (Checksum.complement t.bytes)

/-- What a publisher is shown when a table is to be published, and how it decides. -/
def shown (publish : Publisher ω) (t : Table) (w : ω) : List Offer :=
  (install (watched publish) (t, (w, []))).state.2.2

/-- How a publisher's verdict is answered. -/
def answerTo : Except Status TableKey → Except TableError (Option TableKey)
  | .ok key => .ok (some key)
  | .error status => .error (.install status)

/-- The table after a publisher's verdict. -/
def settled (t : Table) (verdict : Except Status TableKey) : Table :=
  if verdict.isOk then { t with phase := .installed } else t

section
variable (publish : Publisher ω) {t : Table} (w : ω)

/-- Without a table to publish, or after it was published, no publisher is called. -/
theorem install_idle (h : t.isBuilt = false) :
    (install publish (t, w)).value =
      (if t.isInstalled then .error .alreadyInstalled else .ok none) ∧
    (install publish (t, w)).state = (t, w) ∧ shown publish t w = [] := by
  cases hphase : t.phase with
  | empty =>
    obtain ⟨hv, hs⟩ := install_empty publish w hphase
    obtain ⟨-, hws⟩ := install_empty (watched publish) (w, []) hphase
    exact ⟨by simp [hv, isInstalled, hphase], hs, by rw [shown, hws]⟩
  | installed =>
    obtain ⟨hv, hs⟩ := install_installed publish w hphase
    obtain ⟨-, hws⟩ := install_installed (watched publish) (w, []) hphase
    exact ⟨by simp [hv, isInstalled, hphase], hs, by rw [shown, hws]⟩
  | building c => simp [isBuilt, hphase] at h

/-- A table is offered once, and the publisher's verdict decides. -/
theorem install_offered (h : t.isBuilt) {e : Effect ω (Except Status TableKey)}
    (he : e = publish t.offered w) :
    (install publish (t, w)).value = answerTo e.value ∧
    (install publish (t, w)).state = (t.settled e.value, e.state) ∧
    shown publish t w = [⟨t.offered, e.value⟩] := by
  cases hphase : t.phase with
  | empty | installed => simp [isBuilt, hphase] at h
  | building c =>
    have hoffered : t.offered = c.stamped t.identity := by
      simp [offered, bytes, hphase, c.stamped_eq_set]
    obtain ⟨hwv, hws⟩ := watched_apply publish t.offered w []
    rw [hoffered] at he hwv hws ⊢
    cases hverdict : (publish (c.stamped t.identity) w).value with
    | ok key =>
      obtain ⟨hv, hs⟩ := install_accepted publish w hphase hverdict
      obtain ⟨-, hwatched⟩ := install_accepted (watched publish) (w, []) hphase (hwv.trans hverdict)
      rw [shown, hwatched, hv, hs, he, hws, hverdict]
      exact ⟨rfl, rfl, rfl⟩
    | error status =>
      obtain ⟨hv, hs⟩ := install_refused publish w hphase hverdict
      obtain ⟨-, hwatched⟩ := install_refused (watched publish) (w, []) hphase (hwv.trans hverdict)
      rw [shown, hwatched, hv, hs, he, hws, hverdict]
      exact ⟨rfl, rfl, rfl⟩

end

/-! ## Runs without the calls that failed -/

/-- Whether the call of an event succeeded. -/
def Event.succeeded : Event → Bool
  | .append _ _ _ result => result.isOk
  | .install _ result => result.isOk

/-- **A failed call leaves the table as it was.** -/
theorem Step.eq_of_failed {t t' : Table} {e : Event} (s : Step t e t') (h : e.succeeded = false) :
    t' = t := by
  cases s with
  | appended | nothing | published => simp [Event.succeeded, Except.isOk, Except.toBool] at h
  | rejected | late | refused => rfl

/-- The calls of a run that succeed.  Each call to publish brings its publisher, which decides by
the table alone. -/
def succeeding (calls : List (Call Unit)) (t : Table) : List (Call Unit) :=
  ((calls.zip (performAll calls (t, ())).value).filter (·.2.succeeded)).map (·.1)

/-- **Failed calls can be left out of a run**: the others are answered the same, their publishers
are shown the same, and the table is the same in the end. -/
theorem performAll_succeeding (calls : List (Call Unit)) (t : Table) :
    (performAll (succeeding calls t) (t, ())).value =
      (performAll calls (t, ())).value.filter Event.succeeded ∧
    (performAll (succeeding calls t) (t, ())).state = (performAll calls (t, ())).state := by
  induction calls generalizing t with
  | nil => exact ⟨rfl, rfl⟩
  | cons c cs ih =>
    let first := perform c (t, ())
    obtain ⟨hvalue, hstate⟩ := ih first.state.1
    have hrun : (performAll (c :: cs) (t, ())).value =
        first.value :: (performAll cs first.state).value := rfl
    have hend : (performAll (c :: cs) (t, ())).state = (performAll cs first.state).state := rfl
    cases h : first.value.succeeded with
    | true =>
      have hcalls : succeeding (c :: cs) t = c :: succeeding cs first.state.1 := by
        simp [succeeding, hrun, h]
      rw [hcalls, hrun, hend, List.filter_cons_of_pos h, ← hvalue]
      exact ⟨rfl, hstate⟩
    | false =>
      have hsame : first.state = (t, ()) :=
        Prod.ext ((step_perform c t ()).eq_of_failed h) rfl
      have hcalls : succeeding (c :: cs) t = succeeding cs t := by
        simp [succeeding, hrun, h, hsame]
      rw [hsame] at hvalue hstate hrun hend
      rw [hcalls, hrun, hend, List.filter_cons_of_neg (by simp [h])]
      exact ⟨hvalue, hstate⟩

/-- **How a table decides.**  For every table, every block and every publisher:

* the first reason of `refusal?` against a block is the answer, and without one it is appended; a
  block that is not appended leaves the table as it was;
* without a table to publish no publisher is called, nor after it was published; else the publisher
  is shown the table with its checksum once, and its verdict is the answer;
* the table is as it was, unless the publisher takes it;
* a run without its failed calls answers the others the same, shows their publishers the same, and
  leaves the same table. -/
theorem calls_decided (t : Table) (publish : Publisher ω) (w : ω) :
    (∀ block length count,
      (append block length count t).value =
        (match refusal? t block length count with
        | some e => .error e
        | none => .ok ()) ∧
      (∀ e, (append block length count t).value = .error e →
        (append block length count t).state = t)) ∧
    (t.isBuilt = false → t.isInstalled = false →
      (install publish (t, w)).value = .ok none ∧
      (install publish (t, w)).state = (t, w) ∧ shown publish t w = []) ∧
    (t.isInstalled →
      (install publish (t, w)).value = .error .alreadyInstalled ∧
      (install publish (t, w)).state = (t, w) ∧ shown publish t w = []) ∧
    (t.isBuilt →
      (∀ status, (publish t.offered w).value = .error status →
        (install publish (t, w)).value = .error (.install status) ∧
        (install publish (t, w)).state.1 = t ∧
        shown publish t w = [⟨t.offered, .error status⟩]) ∧
      (∀ key, (publish t.offered w).value = .ok key →
        (install publish (t, w)).value = .ok (some key) ∧
        (install publish (t, w)).state.1 = { t with phase := .installed } ∧
        shown publish t w = [⟨t.offered, .ok key⟩])) ∧
    (∀ calls : List (Call Unit),
      (performAll (succeeding calls t) (t, ())).value =
        (performAll calls (t, ())).value.filter Event.succeeded ∧
      (performAll (succeeding calls t) (t, ())).state.1 = (performAll calls (t, ())).state.1) := by
  refine ⟨fun block length count => ⟨append_decided t block length count,
    fun e => append_state_of_error⟩, ?_, ?_, ?_, ?_⟩
  · intro hb hi
    simpa [hi] using install_idle publish w hb
  · intro hi
    have hb : t.isBuilt = false := by
      cases hphase : t.phase <;> simp [isInstalled, isBuilt, hphase] at hi ⊢
    simpa [hi] using install_idle publish w hb
  · intro hb
    obtain ⟨hv, hs, hshown⟩ := install_offered publish w hb rfl
    constructor
    · intro status h
      rw [h] at hv hs hshown
      exact ⟨hv, congrArg Prod.fst hs, hshown⟩
    · intro key h
      rw [h] at hv hs hshown
      exact ⟨hv, congrArg Prod.fst hs, hshown⟩
  · intro calls
    obtain ⟨hv, hs⟩ := performAll_succeeding calls t
    exact ⟨hv, congrArg Prod.fst hs⟩

/-- A publisher that refuses every table. -/
def stubborn : Publisher Unit := fun _ => pure (.error .aborted)

-- of two appended blocks, one is too long for its bytes, and publishing is refused in between
example : succeeding [.append [1, 2] 2 1, .install stubborn, .append [3] 2 1, .append [3] 1 4]
    ⟨.standard, .empty⟩ = [.append [1, 2] 2 1, .append [3] 1 4] := by
  rfl

end Hest.Table
