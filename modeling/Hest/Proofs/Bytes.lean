import Hest.Bytes
import Mathlib.Algebra.GroupWithZero.Nat

/-!
# Windows and overlays

How a window reads a byte string that is given in parts, and how an overlay changes one.

* `window_skip` and `window_head`: a window of a string given in parts is found by going past the
  parts before it; with the lengths of the parts at hand `simp` reads every field of a layout.
* `overlayAt_append_right` and `overlayAt_append_left`: what is laid over one of two parts leaves
  the other part alone.
* `getElem?_overlayAt_of_outside`: what is laid over a string leaves the rest of it alone.
* `window_append_window`: windows that follow one another make one window, so fields make a layout.
* `window_flatMap`: among blocks of one size, each stands at its number times the size.
* `eq_set_of_agree` and `length_eq_of_agree`: a string that agrees with another but in one place is
  the other with one byte stored there.
* `LittleEndian.decode_encode` and, for the fixed widths, `ofNat_decode_encode_32` and its siblings:
  an integer is read back.  `encode_ofNat_decode_32` and its siblings: so are its bytes.
-/

namespace Hest

namespace Bytes

/-! ## Windows -/

@[simp] theorem window_skip {a b : Bytes} {offset n : Nat} (h : a.length ≤ offset) :
    window (a ++ b) offset n = window b (offset - a.length) n := by
  rw [window, List.drop_append, List.drop_eq_nil_of_le h, List.nil_append, window]

@[simp] theorem window_head {a b : Bytes} {n : Nat} (h : a.length = n) :
    window (a ++ b) 0 n = a := by
  simp [window, ← h]

@[simp] theorem window_all {a : Bytes} {n : Nat} (h : a.length = n) : window a 0 n = a := by
  simp [window, ← h]

@[simp] theorem window_cons (x : UInt8) (b : Bytes) (offset n : Nat) :
    window (x :: b) (offset + 1) n = window b offset n := by
  simp [window]

@[simp] theorem window_cons_one (x : UInt8) (b : Bytes) : window (x :: b) 0 1 = [x] := by
  simp [window]

theorem length_window {b : Bytes} {offset n : Nat} (h : offset + n ≤ b.length) :
    (window b offset n).length = n := by
  simp only [window, List.length_take, List.length_drop]; omega

theorem window_drop (b : Bytes) (k offset n : Nat) :
    window (b.drop k) offset n = window b (k + offset) n := by
  rw [window, window, List.drop_drop]

/-- Neighbouring windows are one window. -/
theorem window_append_window {offset n next : Nat} (h : offset + n = next) (b : Bytes) (k : Nat) :
    window b offset n ++ window b next k = window b offset (n + k) := by
  rw [← h, window, window, window, List.take_add, List.drop_drop]

theorem window_take {b : Bytes} {k offset n : Nat} (h : offset + n ≤ k) :
    window (b.take k) offset n = window b offset n := by
  rw [window, window, List.drop_take, List.take_take, Nat.min_eq_left (by omega)]

theorem window_window {b : Bytes} {k m offset n : Nat} (h : offset + n ≤ m) :
    window (window b k m) offset n = window b (k + offset) n := by
  show window ((b.drop k).take m) offset n = _
  rw [window_take h, window_drop]

/-- Blocks of one size, one after another, are found by their number. -/
theorem window_flatMap {α : Type} {f : α → Bytes} {n : Nat} (hf : ∀ a, (f a).length = n)
    (xs : List α) {i : Nat} (h : i < xs.length) : window (xs.flatMap f) (n * i) n = f xs[i] := by
  induction xs generalizing i with
  | nil => cases h
  | cons x xs ih =>
    rw [List.flatMap_cons]
    cases i with
    | zero => exact window_head (hf x)
    | succ i =>
      have hskip : (f x).length ≤ n * (i + 1) := by
        rw [hf, Nat.mul_succ]
        exact Nat.le_add_left n (n * i)
      have hrest : n * (i + 1) - (f x).length = n * i := by
        rw [hf, Nat.mul_succ, Nat.add_sub_cancel]
      rw [window_skip hskip, hrest]
      exact ih (Nat.lt_of_succ_lt_succ h)

/-! ## Overlays -/

theorem overlay_of_length_eq {b top : Bytes} (h : top.length = b.length) : overlay b top = top := by
  simp [overlay, ← h]

theorem overlayAt_zero (b top : Bytes) : overlayAt b 0 top = overlay b top := by
  simp [overlayAt]

/-- What is laid over the second part leaves the first part alone. -/
theorem overlayAt_append_right {a b top : Bytes} {k : Nat} (h : a.length = k) (offset : Nat) :
    overlayAt (a ++ b) (k + offset) top = a ++ overlayAt b offset top := by
  subst h
  rw [overlayAt, overlayAt, List.take_length_add_append, List.drop_length_add_append,
    List.append_assoc]

/-- What is laid over the first part, and fits, leaves the second part alone. -/
theorem overlayAt_append_left {a b top : Bytes} {offset : Nat}
    (h : offset + top.length ≤ a.length) :
    overlayAt (a ++ b) offset top = overlayAt a offset top ++ b := by
  have hfits : top.length ≤ (a.drop offset).length := by
    rw [List.length_drop]; omega
  have hdrop : (a ++ b).drop offset = a.drop offset ++ b :=
    List.drop_append_of_le_length (by omega)
  rw [overlayAt, overlayAt, hdrop, List.take_append_of_le_length (by omega), overlay_of_le hfits,
    overlay_of_le (by rw [List.length_append]; omega), List.drop_append_of_le_length hfits]
  simp only [List.append_assoc]

/-- What is laid over a string leaves the bytes in front of it and behind it as they were. -/
theorem getElem?_overlayAt_of_outside {b top : Bytes} {offset j : Nat}
    (h : j < offset ∨ offset + top.length ≤ j) : (overlayAt b offset top)[j]? = b[j]? := by
  by_cases hj : j < b.length
  · rcases h with hfront | hbehind
    · have hlt : j < (b.take offset).length := by
        rw [List.length_take]; omega
      rw [overlayAt, List.getElem?_append_left hlt, List.getElem?_take_of_lt hfront]
    · have hfits : top.length ≤ (b.drop offset).length := by
        rw [List.length_drop]; omega
      have hlen : (b.take offset ++ top).length = offset + top.length := by
        rw [List.length_append, List.length_take, Nat.min_eq_left (by omega)]
      rw [overlayAt, overlay_of_le hfits, ← List.append_assoc,
        List.getElem?_append_right (by omega), hlen, List.drop_drop, List.getElem?_drop,
        Nat.add_sub_cancel' hbehind]
  · have hend : (overlayAt b offset top).length ≤ j := by
      rw [length_overlayAt]; omega
    rw [List.getElem?_eq_none hend, List.getElem?_eq_none (Nat.le_of_not_lt hj)]

theorem overlayAt_field {a f b top : Bytes} (h : top.length = f.length) :
    overlayAt (a ++ (f ++ b)) a.length top = a ++ (top ++ b) := by
  rw [← Nat.add_zero a.length, overlayAt_append_right rfl, overlayAt_zero,
    overlay_of_le (by simp [h]), h, List.drop_left]

/-! ## Strings that agree but in one place -/

section
variable {a b : Bytes} {i : Nat} (h : ∀ j, j ≠ i → b[j]? = a[j]?)
include h

theorem eq_set_of_agree {v : UInt8} (hv : b[i]? = some v) (hl : b.length = a.length) :
    b = a.set i v := by
  apply List.ext_getElem?
  intro j
  by_cases hj : j = i
  · subst hj
    have hlt : j < a.length := by
      rw [← hl]
      exact (List.getElem?_eq_some_iff.1 hv).1
    rw [hv, List.getElem?_set_self hlt]
  · rw [h j hj, List.getElem?_set_ne (Ne.symm hj)]

/-- If the place is not the last one, the strings are of one length. -/
theorem length_eq_of_agree (hi : i + 1 < a.length) : b.length = a.length := by
  have hends (j : Nat) (hj : j ≠ i) : b.length ≤ j ↔ a.length ≤ j := by
    rw [← List.getElem?_eq_none_iff, h j hj, List.getElem?_eq_none_iff]
  -- both go on past the place, and from there on they end together
  have hnext : i + 1 < b.length := by
    rw [← Nat.not_le, hends (i + 1) (Nat.succ_ne_self i), Nat.not_le]
    exact hi
  apply Nat.le_antisymm
  · exact (hends a.length (by omega)).2 (Nat.le_refl _)
  · exact (hends b.length (by omega)).1 (Nat.le_refl _)

end

end Bytes

/-! ## Fields -/

namespace LittleEndian

theorem decode_lt (b : Bytes) : decode b < 256 ^ b.length := by
  induction b with
  | nil => simp [decode]
  | cons x xs ih =>
    have hx := x.toNat_lt
    simp only [decode, List.length_cons, Nat.pow_succ]
    omega

theorem decode_encode_mod (w n : Nat) : decode (encode w n) = n % 256 ^ w := by
  induction w generalizing n with
  | zero => simp [encode, decode, Nat.mod_one]
  | succ w ih =>
    rw [encode, decode, ih, Nat.pow_succ, Nat.mul_comm (256 ^ w) 256, Nat.mod_mul]
    simp

/-- A number that fits the width is read back. -/
theorem decode_encode {w n : Nat} (h : n < 256 ^ w) : decode (encode w n) = n := by
  rw [decode_encode_mod, Nat.mod_eq_of_lt h]

theorem ofNat_decode_encode_16 (x : UInt16) : UInt16.ofNat (decode (encode 2 x.toNat)) = x := by
  rw [decode_encode (by simpa using x.toNat_lt), UInt16.ofNat_toNat]

theorem ofNat_decode_encode_32 (x : UInt32) : UInt32.ofNat (decode (encode 4 x.toNat)) = x := by
  rw [decode_encode (by simpa using x.toNat_lt), UInt32.ofNat_toNat]

theorem ofNat_decode_encode_64 (x : UInt64) : UInt64.ofNat (decode (encode 8 x.toNat)) = x := by
  rw [decode_encode (by simpa using x.toNat_lt), UInt64.ofNat_toNat]

/-- Eight bytes denote a number of 64 bits. -/
theorem toNat_ofNat_decode_64 {b : Bytes} (h : b.length = 8) :
    (UInt64.ofNat (decode b)).toNat = decode b := by
  have hlt := decode_lt b
  rw [h] at hlt
  exact UInt64.toNat_ofNat_of_lt' hlt

/-- Bytes that are read as an integer of their width are what the integer is written as. -/
theorem encode_ofNat_decode_16 (b : Block 2) :
    encode 2 (UInt16.ofNat (decode b.bytes)).toNat = b.bytes := by
  have hlt := decode_lt b.bytes
  rw [b.length_eq] at hlt
  rw [UInt16.toNat_ofNat_of_lt' hlt]
  simpa using encode_decode b.bytes

theorem encode_ofNat_decode_32 (b : Block 4) :
    encode 4 (UInt32.ofNat (decode b.bytes)).toNat = b.bytes := by
  have hlt := decode_lt b.bytes
  rw [b.length_eq] at hlt
  rw [UInt32.toNat_ofNat_of_lt' hlt]
  simpa using encode_decode b.bytes

theorem encode_ofNat_decode_64 (b : Block 8) :
    encode 8 (UInt64.ofNat (decode b.bytes)).toNat = b.bytes := by
  have hlt := decode_lt b.bytes
  rw [b.length_eq] at hlt
  rw [UInt64.toNat_ofNat_of_lt' hlt]
  simpa using encode_decode b.bytes

theorem singleton_ofNat_decode (b : Block 1) : [UInt8.ofNat (decode b.bytes)] = b.bytes := by
  simpa [encode] using encode_decode b.bytes

end LittleEndian

namespace Block

@[simp] theorem bytes_window {m : Nat} (b : Block m) (offset n : Nat) (h : offset + n ≤ m) :
    (b.window offset n h).bytes = b.bytes.window offset n := rfl

@[simp] theorem ofPrefix?_append {n : Nat} (b : Block n) (rest : Bytes) :
    ofPrefix? n (b.bytes ++ rest) = some b := by
  simp [ofPrefix?]

theorem ofPrefix?_of_le {n : Nat} {b : Bytes} (h : n ≤ b.length) :
    ∃ x, ofPrefix? n b = some x ∧ x.bytes = b.take n := by
  simp [ofPrefix?, h]

end Block

end Hest
