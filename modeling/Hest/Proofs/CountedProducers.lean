import Hest.Proofs.ProbePass
import Mathlib.Algebra.BigOperators.Group.Finset.Basic
import Mathlib.Algebra.Order.BigOperators.Group.Finset

/-!
# Whom the first pass counts

The first pass adds the sizes of producers up, and leaves out those with which a sum would not fit
its field.  A producer is counted as a whole or not at all: its place is among those that are
counted, and its count and its length are summed with theirs.

* `sumAt` are the sums at some places of a list of sizes, `answerers` the places where a size is
  told.
* `countedBefore` goes through the places in order.  `mem_countedBefore_iff`: a place is counted
  just if its size fits the sums at the places counted before it; `countedBefore_eq_answerers`: all
  are counted if their full sums fit.
* `add_admitted_eq_sumAt`: these are the places of what `admitted` keeps.
* `probe_tallied` joins these for the first pass over any roster.
-/

namespace Hest.Collection

/-! ## Sums at places -/

section
variable (size : ℕ → Option Totals)

/-- The sum of the counts and the sum of the lengths at some places. -/
def sumAt (places : Finset ℕ) : Totals :=
  ⟨∑ i ∈ places, ((size i).getD 0).count, ∑ i ∈ places, ((size i).getD 0).length⟩

/-- The places below `n` where a size is told. -/
def answerers (n : ℕ) : Finset ℕ := (Finset.range n).filter fun i => (size i).isSome

/-- The places below `n` that are counted: each in turn, if its size fits the sums so far. -/
def countedBefore : ℕ → Finset ℕ
  | 0 => ∅
  | n + 1 =>
    match (size n).bind (sumAt size (countedBefore n)).add? with
    | some _ => insert n (countedBefore n)
    | none => countedBefore n

variable {size} {i n : ℕ} {t : Totals}

theorem sumAt_insert {places : Finset ℕ} (hi : i ∉ places) (ht : size i = some t) :
    sumAt size (insert i places) = sumAt size places + t := by
  ext <;> simp [sumAt, hi, ht, Nat.add_comm]

/-- Sums at fewer places fit too. -/
theorem Fits.of_subset {places others : Finset ℕ} (h : Fits (sumAt size others))
    (hsub : places ⊆ others) : Fits (sumAt size places) :=
  ⟨Nat.lt_of_le_of_lt (Finset.sum_le_sum_of_subset hsub) h.1,
    Nat.lt_of_le_of_lt (Finset.sum_le_sum_of_subset hsub) h.2⟩

theorem answerers_succ_of_some (ht : size n = some t) :
    answerers size (n + 1) = insert n (answerers size n) := by
  rw [answerers, Finset.range_add_one, Finset.filter_insert, if_pos (by simp [ht]), answerers]

theorem answerers_succ_of_none (ht : size n = none) :
    answerers size (n + 1) = answerers size n := by
  rw [answerers, Finset.range_add_one, Finset.filter_insert, if_neg (by simp [ht]), answerers]

theorem answerers_mono {m : ℕ} (h : m ≤ n) : answerers size m ⊆ answerers size n :=
  Finset.filter_subset_filter _ (Finset.range_mono h)

/-! ## The places that are counted -/

theorem countedBefore_succ_of_fits (ht : size n = some t)
    (h : Fits (sumAt size (countedBefore size n) + t)) :
    countedBefore size (n + 1) = insert n (countedBefore size n) := by
  simp [countedBefore, ht, Totals.add?_of_fits h]

theorem countedBefore_succ_of_not_fits
    (h : ∀ t, size n = some t → ¬Fits (sumAt size (countedBefore size n) + t)) :
    countedBefore size (n + 1) = countedBefore size n := by
  cases ht : size n with
  | none => simp [countedBefore, ht]
  | some t => simp [countedBefore, ht, Totals.add?_of_not_fits (h t ht)]

/-- A further place is counted, with a size that fits, or nothing changes. -/
theorem countedBefore_succ (size : ℕ → Option Totals) (n : ℕ) :
    (∃ t, size n = some t ∧ Fits (sumAt size (countedBefore size n) + t) ∧
      countedBefore size (n + 1) = insert n (countedBefore size n)) ∨
    ((∀ t, size n = some t → ¬Fits (sumAt size (countedBefore size n) + t)) ∧
      countedBefore size (n + 1) = countedBefore size n) := by
  by_cases h : ∃ t, size n = some t ∧ Fits (sumAt size (countedBefore size n) + t)
  · obtain ⟨t, ht, hfits⟩ := h
    exact .inl ⟨t, ht, hfits, countedBefore_succ_of_fits ht hfits⟩
  · have hno : ∀ t, size n = some t → ¬Fits (sumAt size (countedBefore size n) + t) :=
      fun t ht hfits => h ⟨t, ht, hfits⟩
    exact .inr ⟨hno, countedBefore_succ_of_not_fits hno⟩

theorem countedBefore_subset (size : ℕ → Option Totals) (n : ℕ) :
    countedBefore size n ⊆ answerers size n := by
  induction n with
  | zero => exact Finset.empty_subset _
  | succ n ih =>
    obtain ⟨t, ht, -, hsucc⟩ | ⟨-, hsucc⟩ := countedBefore_succ size n
    · rw [hsucc, answerers_succ_of_some ht]
      exact Finset.insert_subset_insert n ih
    · rw [hsucc]
      exact ih.trans (answerers_mono n.le_succ)

theorem notMem_countedBefore (size : ℕ → Option Totals) (n : ℕ) : n ∉ countedBefore size n := by
  intro h
  simpa [answerers] using countedBefore_subset size n h

theorem sumAt_countedBefore_succ (size : ℕ → Option Totals) (n : ℕ) :
    sumAt size (countedBefore size (n + 1)) =
      ((size n).bind (sumAt size (countedBefore size n)).add?).getD
        (sumAt size (countedBefore size n)) := by
  obtain ⟨t, ht, hfits, hsucc⟩ | ⟨hno, hsucc⟩ := countedBefore_succ size n
  · rw [hsucc, sumAt_insert (notMem_countedBefore size n) ht, ht, Option.bind_some,
      Totals.add?_of_fits hfits, Option.getD_some]
  · rw [hsucc]
    cases ht : size n with
    | none => rfl
    | some t => rw [Option.bind_some, Totals.add?_of_not_fits (hno t ht), Option.getD_none]

/-- **The sums stay within their fields.** -/
theorem fits_countedBefore (size : ℕ → Option Totals) (n : ℕ) :
    Fits (sumAt size (countedBefore size n)) := by
  induction n with
  | zero => exact fits_zero
  | succ n ih =>
    obtain ⟨t, ht, hfits, hsucc⟩ | ⟨-, hsucc⟩ := countedBefore_succ size n
    · rw [hsucc, sumAt_insert (notMem_countedBefore size n) ht]
      exact hfits
    · rw [hsucc]
      exact ih

/-- Whether a place is counted is settled when it is come to. -/
theorem filter_countedBefore (h : i ≤ n) :
    (countedBefore size n).filter (· < i) = countedBefore size i := by
  induction n, h using Nat.le_induction with
  | base =>
    refine Finset.filter_true_of_mem fun j hj => ?_
    have hmem := countedBefore_subset size i hj
    exact Finset.mem_range.1 (Finset.mem_filter.1 hmem).1
  | succ n hin ih =>
    obtain ⟨t, -, -, hsucc⟩ | ⟨-, hsucc⟩ := countedBefore_succ size n
    · rw [hsucc, Finset.filter_insert, if_neg (Nat.not_lt.2 hin), ih]
    · rw [hsucc, ih]

/-- **A place is counted just if its size fits** the sums at the places counted before it. -/
theorem mem_countedBefore_iff (hi : i < n) (ht : size i = some t) :
    i ∈ countedBefore size n ↔ Fits (sumAt size (countedBefore size i) + t) := by
  have hsettled : i ∈ countedBefore size n ↔ i ∈ countedBefore size (i + 1) := by
    rw [← filter_countedBefore hi, Finset.mem_filter]
    exact (and_iff_left i.lt_succ_self).symm
  rw [hsettled]
  by_cases hfits : Fits (sumAt size (countedBefore size i) + t)
  · rw [countedBefore_succ_of_fits ht hfits]
    exact iff_of_true (Finset.mem_insert_self i _) hfits
  · have hno : ∀ t', size i = some t' → ¬Fits (sumAt size (countedBefore size i) + t') := by
      intro t' ht'
      rwa [← Option.some.inj (ht.symm.trans ht')]
    rw [countedBefore_succ_of_not_fits hno]
    exact iff_of_false (notMem_countedBefore size i) hfits

/-- **All that tell a size are counted, just if their full sums fit.** -/
theorem countedBefore_eq_answerers (size : ℕ → Option Totals) (n : ℕ) :
    countedBefore size n = answerers size n ↔ Fits (sumAt size (answerers size n)) := by
  constructor
  · intro h
    rw [← h]
    exact fits_countedBefore size n
  intro h
  have hall (m : ℕ) (hm : m ≤ n) : countedBefore size m = answerers size m := by
    induction m with
    | zero => rfl
    | succ m ih =>
      specialize ih (Nat.le_of_succ_le hm)
      cases ht : size m with
      | none =>
        rw [countedBefore_succ_of_not_fits (by simp [ht]), answerers_succ_of_none ht, ih]
      | some t =>
        have hfits : Fits (sumAt size (countedBefore size m) + t) := by
          have hsub := h.of_subset (answerers_mono hm)
          rw [answerers_succ_of_some ht, ← ih, sumAt_insert (notMem_countedBefore size m) ht]
            at hsub
          exact hsub
        rw [countedBefore_succ_of_fits ht hfits, answerers_succ_of_some ht, ih]
  exact hall n (Nat.le_refl n)

end

/-- Going on from the places before `n` with a list adds up the sizes at the places of the list that
are counted. -/
theorem add_admitted_eq_sumAt {α : Type} (size : α → Option Totals) {sizeAt : ℕ → Option Totals}
    {xs : List α} {n : ℕ} (h : ∀ j (hj : j < xs.length), size xs[j] = sizeAt (n + j)) :
    sumAt sizeAt (countedBefore sizeAt n) +
        ((admitted size (sumAt sizeAt (countedBefore sizeAt n)) xs).filterMap size).sum =
      sumAt sizeAt (countedBefore sizeAt (n + xs.length)) := by
  induction xs generalizing n with
  | nil => exact add_zero _
  | cons x xs ih =>
    have hx : size x = sizeAt n := h 0 (Nat.zero_lt_succ _)
    have hxs (j : ℕ) (hj : j < xs.length) : size xs[j] = sizeAt (n + 1 + j) := by
      rw [Nat.add_right_comm]
      exact h (j + 1) (Nat.succ_lt_succ hj)
    rw [add_admitted_cons, hx, ← sumAt_countedBefore_succ, ih hxs, List.length_cons,
      Nat.add_right_comm]
    rfl

/-! ## The pass -/

variable {ω π : Type}

/-- The size told at a place of a list of questions. -/
def sizeAt (questions : List (Query π)) (i : ℕ) : Option Totals :=
  questions[i]?.bind (·.answer.size?)

/-- The places of the questions of a first pass whose sizes are counted. -/
def countedPlaces (probes : List (Query π)) : Finset ℕ :=
  countedBefore (sizeAt probes) probes.length

/-- How the totals of a first pass come about: they are the sums at the places `counted` of its
questions. -/
structure Tallied (probes : List (Query π)) (counted : Finset ℕ) (declared : Totals) : Prop where
  /-- Only who tells a size is counted. -/
  told : counted ⊆ answerers (sizeAt probes) probes.length
  /-- Both totals are sums over the same places. -/
  count_eq : declared.count = ∑ i ∈ counted, ((sizeAt probes i).getD 0).count
  length_eq : declared.length = ∑ i ∈ counted, ((sizeAt probes i).getD 0).length
  count_lt : declared.count < 2 ^ 64
  length_lt : declared.length < 2 ^ 64
  /-- All who tell a size are counted, just if the full sums fit. -/
  all_iff : counted = answerers (sizeAt probes) probes.length ↔
    ∑ i ∈ answerers (sizeAt probes) probes.length, ((sizeAt probes i).getD 0).count < 2 ^ 64 ∧
    ∑ i ∈ answerers (sizeAt probes) probes.length, ((sizeAt probes i).getD 0).length < 2 ^ 64
  /-- Wherever a producer stands that tells a size, it is left out just if one of the sums at the
  places counted before it would not fit with it. -/
  left_out_iff : ∀ i t, sizeAt probes i = some t → (i ∉ counted ↔
    2 ^ 64 ≤ ∑ j ∈ counted with j < i, ((sizeAt probes j).getD 0).count + t.count ∨
    2 ^ 64 ≤ ∑ j ∈ counted with j < i, ((sizeAt probes j).getD 0).length + t.length)

theorem lt_length_of_sizeAt {questions : List (Query π)} {i : ℕ} {t : Totals}
    (h : sizeAt questions i = some t) : i < questions.length := by
  obtain ⟨q, hq, -⟩ := Option.bind_eq_some_iff.1 h
  exact (List.getElem?_eq_some_iff.1 hq).1

/-- **Whom the first pass counts.**  Whatever producers answer, each is asked once, in order,
without a destination, and the totals are those of the places that are counted: a producer is
counted with both its numbers or not at all, it is left out only if a sum would leave 64 bits, and
the next one is tried then. -/
theorem probe_tallied (roster : Roster ω π) (producers : List π) (w : ω) :
    ∃ probes, (probe roster.noted 0 .zero producers (w, [])).state.2 = probes ∧
      probes.map (·.producer) = producers ∧ (∀ q ∈ probes, q.destination = none) ∧
      Tallied probes (countedPlaces probes) (probe roster 0 .zero producers w).value := by
  obtain ⟨probes, hs, hp, hd, hvalue⟩ := probe_admitted roster 0 .zero producers w []
  rw [List.nil_append] at hs
  have hdeclared : (probe roster 0 .zero producers w).value =
      sumAt (sizeAt probes) (countedPlaces probes) := by
    have hplaces (j : ℕ) (hj : j < probes.length) :
        probes[j].answer.size? = sizeAt probes (0 + j) := by
      rw [Nat.zero_add, sizeAt, List.getElem?_eq_getElem hj, Option.bind_some]
    have hsums := add_admitted_eq_sumAt (fun q : Query π => q.answer.size?) hplaces
    rw [Nat.zero_add] at hsums
    exact hvalue.trans hsums
  have hfits := fits_countedBefore (sizeAt probes) probes.length
  refine ⟨probes, hs, hp, hd, ?_⟩
  rw [hdeclared]
  refine ⟨countedBefore_subset _ _, rfl, rfl, hfits.1, hfits.2,
    countedBefore_eq_answerers _ _, fun i t ht => ?_⟩
  have hi := lt_length_of_sizeAt ht
  rw [countedPlaces, mem_countedBefore_iff hi ht, filter_countedBefore (Nat.le_of_lt hi), Fits,
    not_and_or, Nat.not_lt, Nat.not_lt]
  rfl

end Hest.Collection
