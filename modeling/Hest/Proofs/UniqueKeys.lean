import Mathlib.Data.List.Nodup

/-!
# Lists with unique keys

The registry and the dispatcher keep their entries in lists that are searched by key from the front
and that lose the first entry of a key, which is the one that a search finds
(`exists_append_of_lookup`).  As long as no key occurs twice, a search finds an entry wherever it
stands (`lookup_eq_some_iff_mem`), and without its first entry a list has none of a key any more
(`eraseP_eq_filter`).
-/

namespace Hest.UniqueKeys

variable {κ ν : Type} {entries : List (κ × ν)} {k : κ} {v : ν}

theorem fst_ne_of_notMem (hk : k ∉ entries.map Prod.fst) {entry : κ × ν} (h : entry ∈ entries) :
    entry.1 ≠ k := by
  rintro rfl
  exact hk (List.mem_map_of_mem h)

variable [DecidableEq κ]

theorem lookup_eq_none_iff_notMem : entries.lookup k = none ↔ k ∉ entries.map Prod.fst := by
  rw [List.lookup_eq_none_iff, List.mem_map, not_exists]
  exact forall_congr' fun _ => by rw [not_and, bne_iff_ne, ne_comm]

theorem filter_of_notMem (hk : k ∉ entries.map Prod.fst) : entries.filter (·.1 ≠ k) = entries :=
  List.filter_eq_self.2 fun _ hentry => decide_eq_true (fst_ne_of_notMem hk hentry)

/-- Without a key in a list, nothing goes with it. -/
theorem eraseP_of_lookup_eq_none (hnone : entries.lookup k = none) :
    entries.eraseP (·.1 = k) = entries :=
  List.eraseP_of_forall_not fun _ hentry => by
    simpa using fst_ne_of_notMem (lookup_eq_none_iff_notMem.1 hnone) hentry

/-- **What goes with a key is the entry that a search finds**, and the others stay in order. -/
theorem exists_append_of_lookup (hfound : entries.lookup k = some v) : ∃ front back,
    entries = front ++ (k, v) :: back ∧ entries.eraseP (·.1 = k) = front ++ back := by
  obtain ⟨front, back, rfl, hfront⟩ := List.lookup_eq_some_iff.1 hfound
  refine ⟨front, back, rfl, ?_⟩
  have hskipped (entry : κ × ν) (h : entry ∈ front) : ¬decide (entry.1 = k) = true := fun heq =>
    bne_iff_ne.1 (hfront entry h) (of_decide_eq_true heq).symm
  rw [List.eraseP_append_right _ hskipped, List.eraseP_cons_of_pos (by simp)]

section
variable (hunique : (entries.map Prod.fst).Nodup)
include hunique

theorem lookup_eq_some_iff_mem : entries.lookup k = some v ↔ (k, v) ∈ entries := by
  induction entries with
  | nil => simp
  | cons entry entries ih =>
    obtain ⟨hnew, hrest⟩ := List.nodup_cons.1 hunique
    by_cases hentry : entry.1 = k
    · -- the rest has no entry of this key, so the one in front is meant
      have hnone : (k, v) ∉ entries := fun h => hnew (hentry ▸ List.mem_map_of_mem h)
      grind
    · grind

/-- **With the first entry of a key all of them go.** -/
theorem eraseP_eq_filter (k : κ) : entries.eraseP (·.1 = k) = entries.filter (·.1 ≠ k) := by
  induction entries with
  | nil => rfl
  | cons entry entries ih =>
    obtain ⟨hnew, hrest⟩ := List.nodup_cons.1 hunique
    by_cases hentry : entry.1 = k
    · subst hentry
      rw [List.eraseP_cons_of_pos (by simp), List.filter_cons_of_neg (by simp),
        filter_of_notMem hnew]
    · rw [List.eraseP_cons_of_neg (by simpa using hentry),
        List.filter_cons_of_pos (by simpa using hentry), ih hrest]

/-- A lost key is not found any more, and any other is found as before. -/
theorem lookup_eraseP (k k' : κ) :
    (entries.eraseP (·.1 = k)).lookup k' = if k' = k then none else entries.lookup k' := by
  rw [eraseP_eq_filter hunique]
  clear hunique
  induction entries with
  | nil => simp
  | cons entry entries ih => by_cases hentry : entry.1 = k <;> grind

end

end Hest.UniqueKeys
