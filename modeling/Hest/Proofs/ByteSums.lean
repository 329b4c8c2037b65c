import Hest.Header.Description
import Mathlib.Algebra.GroupWithZero.Nat

/-!
# How the sum of bytes moves

A byte that is stored in the place of another moves the sum of a byte string by what it differs from
the old one, wherever it stands.

* `toNat_sum` and `balanced_iff_dvd`: the sum is that of the bytes as numbers, modulo 256, so a
  string is balanced when they add up to a multiple of 256.
* `sum_set` is how one stored byte moves the sum; `balanced_set_iff` says which bytes balance a
  string from a given place.
* From it, in the place of a zero byte only the complement does (`balanced_set_zero_iff`), and in a
  balanced string only the byte that is there already (`balanced_set_of_balanced_iff`).
-/

namespace Hest.Checksum

/-! ## What the sum is -/

theorem toNat_sum (b : Bytes) : (sum b).toNat = (b.map UInt8.toNat).sum % 256 := by
  induction b with
  | nil => rfl
  | cons x xs ih =>
    rw [sum_cons, UInt8.toNat_add, ih, List.map_cons, List.sum_cons]
    exact Nat.add_mod_mod ..

theorem balanced_iff {b : Bytes} : balanced b ↔ sum b = 0 := beq_iff_eq

/-- **Balanced bytes add up to a multiple of 256**, as numbers that do not wrap. -/
theorem balanced_iff_dvd (b : Bytes) : balanced b ↔ 256 ∣ (b.map UInt8.toNat).sum := by
  rw [balanced_iff, ← UInt8.toNat_inj, toNat_sum, Nat.dvd_iff_mod_eq_zero]
  rfl

/-! ## One stored byte -/

section
variable {b : Bytes} {i : Nat} {x : UInt8}

/-- **A stored byte moves the sum by what it differs from the byte before.** -/
theorem sum_set (h : b[i]? = some x) (v : UInt8) : sum (b.set i v) + x = sum b + v := by
  obtain ⟨hi, hx⟩ := List.getElem?_eq_some_iff.1 h
  -- in front of the place and behind it, nothing moves
  have hold : b.take i ++ x :: b.drop (i + 1) = b := by
    rw [← hx, List.getElem_cons_drop, List.take_append_drop]
  have hnew : b.set i v = b.take i ++ v :: b.drop (i + 1) := by
    rw [List.set_eq_take_append_cons_drop, if_pos hi]
  calc sum (b.set i v) + x
      = sum (b.take i) + (v + sum (b.drop (i + 1))) + x := by rw [hnew, sum_append, sum_cons]
    _ = sum (b.take i) + (x + sum (b.drop (i + 1))) + v := by ac_rfl
    _ = sum b + v := by rw [← sum_cons, ← sum_append, hold]

theorem balanced_set_iff (h : b[i]? = some x) (v : UInt8) :
    balanced (b.set i v) ↔ sum b + v = x := by
  rw [balanced_iff, ← sum_set h v]
  exact UInt8.add_eq_right.symm

/-- In the place of a zero byte, the complement balances the bytes and no other byte does. -/
theorem balanced_set_zero_iff (h : b[i]? = some 0) (v : UInt8) :
    balanced (b.set i v) ↔ v = complement b := by
  rw [balanced_set_iff h, complement, UInt8.eq_sub_iff_add_eq, UInt8.add_comm]

/-- Balanced bytes stay balanced only if the byte that is stored is the one that was there. -/
theorem balanced_set_of_balanced_iff (hb : balanced b) (h : b[i]? = some x) (v : UInt8) :
    balanced (b.set i v) ↔ v = x := by
  rw [balanced_set_iff h, balanced_iff.1 hb, UInt8.zero_add]

end

end Hest.Checksum
