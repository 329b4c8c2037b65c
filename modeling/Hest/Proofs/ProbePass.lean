import Hest.Proofs.CollectionRules
import Hest.Proofs.Queries
import Mathlib.Algebra.BigOperators.Group.List.Basic

/-!
# The first pass

In the first pass each producer is asked for its size, and sizes are added up as long as the sums
fit their fields.  A producer whose size would not fit is left out, and the next one is tried.

* `Totals` add up like the numbers that they hold; `add?_of_fits` and `add?_of_not_fits` say when a
  sum is refused.
* `admitted` are those of a list whose sizes are added; `admitted_of_fits`: all that tell a size, if
  the full sums fit.
* `probe_admitted`: the first pass gives the sum of the sizes that were admitted.  `probe_of_sizes`
  is the case of producers that tell the same size whenever they are asked.
-/

namespace Hest

/-! ## Sums of totals -/

namespace Totals

attribute [ext] Totals

instance : Zero Totals := ⟨.zero⟩

instance : Add Totals := ⟨fun a b => ⟨a.count + b.count, a.length + b.length⟩⟩

instance : AddCommMonoid Totals where
  add_assoc a b c := by ext <;> apply Nat.add_assoc
  zero_add a := by ext <;> apply Nat.zero_add
  add_zero a := rfl
  add_comm a b := by ext <;> apply Nat.add_comm
  nsmul := nsmulRec

@[simp] theorem count_add (a b : Totals) : (a + b).count = a.count + b.count := rfl

@[simp] theorem length_add (a b : Totals) : (a + b).length = a.length + b.length := rfl

@[simp] theorem count_zero : (0 : Totals).count = 0 := rfl

@[simp] theorem length_zero : (0 : Totals).length = 0 := rfl

theorem add?_of_fits {a b : Totals} (h : Collection.Fits (a + b)) : a.add? b = some (a + b) :=
  if_pos h

theorem add?_of_not_fits {a b : Totals} (h : ¬Collection.Fits (a + b)) : a.add? b = none :=
  if_neg h

theorem eq_of_add? {a b sum : Totals} (h : a.add? b = some sum) : sum = a + b := by
  unfold add? at h
  split at h
  · exact (Option.some.inj h).symm
  · cases h

end Totals

namespace Collection

theorem Fits.of_add {a b : Totals} (h : Fits (a + b)) : Fits a :=
  ⟨Nat.lt_of_le_of_lt (Nat.le_add_right _ _) h.1, Nat.lt_of_le_of_lt (Nat.le_add_right _ _) h.2⟩

/-! ## What is admitted -/

section
variable {α β : Type}

/-- Those of a list whose sizes are added to a total, one after another, as long as the sums fit. -/
def admitted (size : α → Option Totals) : Totals → List α → List α
  | _, [] => []
  | total, x :: xs =>
    match (size x).bind total.add? with
    | some sum => x :: admitted size sum xs
    | none => admitted size total xs

variable {size : α → Option Totals} {total : Totals}

theorem admitted_cons_of_fits {x : α} {t : Totals} (hx : size x = some t)
    (h : Fits (total + t)) (xs : List α) :
    admitted size total (x :: xs) = x :: admitted size (total + t) xs := by
  simp [admitted, hx, Totals.add?_of_fits h]

theorem admitted_cons_of_not_fits {x : α} (h : ∀ t, size x = some t → ¬Fits (total + t))
    (xs : List α) : admitted size total (x :: xs) = admitted size total xs := by
  cases hx : size x with
  | none => simp [admitted, hx]
  | some t => simp [admitted, hx, Totals.add?_of_not_fits (h t hx)]

/-- The total with what is admitted is found by going on from the total after one more. -/
theorem add_admitted_cons (size : α → Option Totals) (total : Totals) (x : α) (xs : List α) :
    total + ((admitted size total (x :: xs)).filterMap size).sum =
      ((size x).bind total.add?).getD total +
        ((admitted size (((size x).bind total.add?).getD total) xs).filterMap size).sum := by
  rw [admitted]
  cases hsum : (size x).bind total.add? with
  | none => rfl
  | some sum =>
    obtain ⟨t, hx, hadd⟩ := Option.bind_eq_some_iff.1 hsum
    simp only [Option.getD_some]
    rw [List.filterMap_cons_some hx, List.sum_cons, ← add_assoc, Totals.eq_of_add? hadd]

/-- **If the full sums fit, all that tell a size are admitted.** -/
theorem admitted_of_fits {xs : List α} (h : Fits (total + (xs.filterMap size).sum)) :
    admitted size total xs = xs.filter fun x => (size x).isSome := by
  induction xs generalizing total with
  | nil => rfl
  | cons x xs ih =>
    cases hx : size x with
    | none =>
      rw [List.filterMap_cons_none hx] at h
      rw [admitted_cons_of_not_fits (by simp [hx]), ih h, List.filter_cons_of_neg (by simp [hx])]
    | some t =>
      rw [List.filterMap_cons_some hx, List.sum_cons, ← add_assoc] at h
      rw [admitted_cons_of_fits hx h.of_add, ih h, List.filter_cons_of_pos (by simp [hx])]

theorem filterMap_admitted_of_fits {xs : List α}
    (h : Fits (total + (xs.filterMap size).sum)) :
    (admitted size total xs).filterMap size = xs.filterMap size := by
  rw [admitted_of_fits h, List.filterMap_filter]
  refine List.filterMap_congr fun x _ => ?_
  cases size x <;> rfl

theorem admitted_map {f : β → α} {size' : β → Option Totals} {ys : List β}
    (h : ∀ y ∈ ys, size' y = size (f y)) (total : Totals) :
    admitted size total (ys.map f) = (admitted size' total ys).map f := by
  induction ys generalizing total with
  | nil => rfl
  | cons y ys ih =>
    have htail := fun t => ih (fun z hz => h z (List.mem_cons_of_mem y hz)) t
    rw [List.map_cons, admitted, admitted, h y List.mem_cons_self]
    cases (size (f y)).bind total.add? with
    | none => exact htail total
    | some sum => exact congrArg (f y :: ·) (htail sum)

theorem admitted_subset {xs : List α} : ∀ x ∈ admitted size total xs, x ∈ xs := by
  induction xs generalizing total with
  | nil => simp [admitted]
  | cons x xs ih =>
    intro y hy
    rw [admitted] at hy
    cases hsum : (size x).bind total.add? with
    | none =>
      rw [hsum] at hy
      exact List.mem_cons_of_mem x (ih y hy)
    | some sum =>
      rw [hsum] at hy
      rcases List.mem_cons.1 hy with rfl | hy
      · exact List.mem_cons_self
      · exact List.mem_cons_of_mem x (ih y hy)

end

/-! ## The pass -/

end Collection

/-- The size that an answer tells. -/
def Answer.size? (a : Answer) : Option Totals :=
  match a.outcome with
  | .ok (.sizeOnly t) => some t
  | _ => none

namespace Collection

variable {ω π : Type}

theorem tally_eq (index : Nat) (total : Totals) (a : Answer) :
    (tally index total a.outcome).1 = (a.size?.bind total.add?).getD total := by
  obtain ⟨(status | (t | t)), bytes⟩ := a
  · rfl
  · simp only [tally, Answer.size?, Option.bind_some]
    cases total.add? t <;> rfl
  · rfl

/-- **The first pass gives the sum of the sizes that were admitted**, read off its questions. -/
theorem probe_admitted (roster : Roster ω π) (index : Nat) (total : Totals) (producers : List π)
    (w : ω) (before : List (Query π)) : ∃ queries,
      (probe roster.noted index total producers (w, before)).state.2 = before ++ queries ∧
      queries.map (·.producer) = producers ∧ (∀ q ∈ queries, q.destination = none) ∧
      (probe roster index total producers w).value =
        total + ((admitted (·.answer.size?) total queries).filterMap (·.answer.size?)).sum := by
  induction producers generalizing index total w before with
  | nil => exact ⟨[], by simp [probe], rfl, by simp, (add_zero total).symm⟩
  | cons p ps ih =>
    let q : Query π := ⟨p, none, (roster.ask p none w).value⟩
    obtain ⟨queries, hs, hp, hd, hvalue⟩ := ih (index + 1) (tally index total q.answer.outcome).1
      (roster.ask p none w).state (before ++ [q])
    refine ⟨q :: queries, ?_, by simp [hp, q], List.forall_mem_cons.2 ⟨rfl, hd⟩, ?_⟩
    · rw [← List.append_cons] at hs
      exact hs
    · rw [add_admitted_cons (·.answer.size?) total q queries, ← tally_eq index]
      exact hvalue

/-- Producers that tell the same size whenever they are asked are admitted by these sizes. -/
theorem probe_of_sizes {roster : Roster ω π} {size : π → Option Totals} {producers : List π}
    (h : ∀ p ∈ producers, ∀ w, (roster.ask p none w).value.size? = size p) (index : Nat)
    (total : Totals) (w : ω) : (probe roster index total producers w).value =
      total + ((admitted size total producers).filterMap size).sum := by
  obtain ⟨queries, hs, rfl, hd, hvalue⟩ := probe_admitted roster index total producers w []
  have hsize (q : Query π) (hq : q ∈ queries) : q.answer.size? = size q.producer := by
    have hgiven := probe_given roster index total (queries.map (·.producer)) w
    rw [hs, List.nil_append] at hgiven
    obtain ⟨v, ha⟩ := hgiven q hq
    rw [ha, hd q hq, h q.producer (List.mem_map_of_mem hq) v]
  have hadmitted (q : Query π) (hq : q ∈ admitted (·.answer.size?) total queries) :
      q.answer.size? = size q.producer := hsize q (admitted_subset q hq)
  rw [hvalue, admitted_map hsize, List.filterMap_map, List.filterMap_congr hadmitted]
  rfl

end Collection

end Hest
