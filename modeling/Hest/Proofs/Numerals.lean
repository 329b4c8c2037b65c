import Hest.Text.Numeral
import Mathlib.Data.List.Forall2
import Mathlib.Data.Nat.Digits.Defs

/-!
# The grammar of numerals

Which texts are numerals, and of which numbers, said without reading them.

* `Spells` relates digits to the number that they are the digits of, in any base up to sixteen;
  `Numeral` allows a plus sign before them, and `Number` a decimal numeral or a hexadecimal one
  behind its mark.
* `numeral_eq_ok_iff` and `number_eq_ok_iff`: reading gives a number just where the grammar does and
  the number is below 2^64.
* `Number.unique`: a text denotes one number at most.
* `spells_toDigits`: every number has its digits in every base.
-/

namespace Hest.Text

/-- The digits up to fifteen, with lower-case letters. -/
def lowerDigits : List Char := "0123456789abcdef".toList

/-- The digits up to fifteen, with upper-case letters. -/
def upperDigits : List Char := "0123456789ABCDEF".toList

/-- A character is the digit of value `d` in a base. -/
def IsDigit (base : Nat) (c : Char) (d : Nat) : Prop :=
  d < base ∧ (lowerDigits[d]? = some c ∨ upperDigits[d]? = some c)

/-- Digits of a base, the most significant first and at least one, and the number that they
denote. -/
def Spells (base : Nat) (s : List Char) (n : Nat) : Prop :=
  ∃ ds, ds ≠ [] ∧ List.Forall₂ (IsDigit base) s ds ∧ n = Nat.ofDigits base ds.reverse

/-- Digits, with a plus sign before them or without. -/
inductive Numeral (base : Nat) : List Char → Nat → Prop where
  | plain {s n} : Spells base s n → Numeral base s n
  | plus {s n} : Spells base s n → Numeral base ('+' :: s) n

/-- A decimal numeral, or a hexadecimal one behind its mark. -/
inductive Number : List Char → Nat → Prop where
  | decimal {s n} : Numeral 10 s n → Number s n
  | lower {s n} : Numeral 16 s n → Number ('0' :: 'x' :: s) n
  | upper {s n} : Numeral 16 s n → Number ('0' :: 'X' :: s) n

/-! ## Digits -/

section
variable {base d : Nat} {c : Char}

/-- The digits of a smaller base are those of sixteen that are small enough. -/
theorem digit?_eq_some_iff_sixteen (hbase : base ≤ 16) :
    digit? base c = some d ↔ digit? 16 c = some d ∧ d < base := by
  unfold digit?
  grind

/-- The code of a digit is told by its value, for a letter up to its case. -/
theorem code_of_digit? (h : digit? 16 c = some d) : (d < 10 ∧ c.toNat = 48 + d) ∨
    ∃ k < 6, d = k + 10 ∧ (c.toNat = 97 + k ∨ c.toNat = 65 + k) := by
  have hle (a b : Char) : a ≤ b ↔ a.toNat ≤ b.toNat := Iff.rfl
  simp only [digit?, hle, Char.reduceToNat, Option.ite_none_right_eq_some, Option.some.injEq] at h
  obtain ⟨hd, rfl⟩ := h
  split_ifs at hd ⊢
  · omega
  · refine .inr ⟨c.toNat - 97, ?_⟩
    omega
  · refine .inr ⟨c.toNat - 65, ?_⟩
    omega
  · omega

/-- **A character is read as a digit just where it is one.** -/
theorem digit?_eq_some_iff (hbase : base ≤ 16) : digit? base c = some d ↔ IsDigit base c d := by
  rw [digit?_eq_some_iff_sixteen hbase]
  constructor
  · rintro ⟨h, hd⟩
    have hdecimal : ∀ k < 10, lowerDigits[k]? = some (Char.ofNat (48 + k)) := by decide
    have hlower : ∀ k < 6, lowerDigits[k + 10]? = some (Char.ofNat (97 + k)) := by decide
    have hupper : ∀ k < 6, upperDigits[k + 10]? = some (Char.ofNat (65 + k)) := by decide
    refine ⟨hd, ?_⟩
    rw [← c.ofNat_toNat]
    rcases code_of_digit? h with ⟨hk, hcode⟩ | ⟨k, hk, rfl, hcode | hcode⟩
    · exact .inl (hcode ▸ hdecimal d hk)
    · exact .inl (hcode ▸ hlower k hk)
    · exact .inr (hcode ▸ hupper k hk)
  · rintro ⟨hd, h⟩
    have hread : ∀ k < 16, lowerDigits[k]?.bind (digit? 16) = some k ∧
        upperDigits[k]?.bind (digit? 16) = some k := by decide
    obtain ⟨hlower, hupper⟩ := hread d (hd.trans_le hbase)
    rcases h with h | h
    · rw [h] at hlower
      exact ⟨hlower, hd⟩
    · rw [h] at hupper
      exact ⟨hupper, hd⟩

/-- What is no digit of sixteen is no digit of a smaller base. -/
theorem not_isDigit (hbase : base ≤ 16) (h : digit? 16 c = none) : ¬IsDigit base c d := by
  intro hd
  rw [← digit?_eq_some_iff hbase, digit?_eq_some_iff_sixteen hbase, h] at hd
  exact nomatch hd.1

theorem isDigit_unique (hbase : base ≤ 16) : Relator.RightUnique (IsDigit base) := by
  intro c d d' h h'
  rw [← digit?_eq_some_iff hbase] at h h'
  exact Option.some.inj (h.symm.trans h')

/-- A number below the base is a digit. -/
theorem isDigit_digitChar (hbase : base ≤ 16) (hd : d < base) :
    IsDigit base (Nat.digitChar d) d := by
  have hchar : ∀ k < 16, lowerDigits[k]? = some (Nat.digitChar k) := by decide
  exact ⟨hd, .inl (hchar d (hd.trans_le hbase))⟩

end

/-! ## Reading -/

section
variable {base : Nat} {s : List Char} {n : Nat}

/-- More digits only make a number larger. -/
theorem le_foldl (hbase : 0 < base) (ds : List Nat) (acc : Nat) :
    acc ≤ ds.foldl (fun a d => d + base * a) acc := by
  induction ds generalizing acc with
  | nil => exact Nat.le_refl acc
  | cons d ds ih =>
    calc acc ≤ base * acc := Nat.le_mul_of_pos_left acc hbase
      _ ≤ d + base * acc := Nat.le_add_left _ d
      _ ≤ _ := ih (d + base * acc)

/-- Digits are read behind what the digits before them denote. -/
theorem digits_eq_ok_iff (hpos : 0 < base) (hbase : base ≤ 16) {acc : Nat}
    (hacc : acc < UInt64.size) : digits base acc s = .ok n ↔
      (∃ ds, List.Forall₂ (IsDigit base) s ds ∧ ds.foldl (fun a d => d + base * a) acc = n) ∧
        n < UInt64.size := by
  induction s generalizing acc with
  | nil =>
    simp only [digits, Except.ok.injEq, List.forall₂_nil_left_iff, exists_eq_left, List.foldl_nil]
    constructor
    · rintro rfl
      exact ⟨rfl, hacc⟩
    · rintro ⟨h, -⟩
      exact h
  | cons c cs ih =>
    rw [digits]
    cases hc : digit? base c with
    | none =>
      refine ⟨fun h => (nomatch h), ?_⟩
      rintro ⟨⟨ds, hds, -⟩, -⟩
      obtain ⟨d, ds', hd, -, -⟩ := List.forall₂_cons_left_iff.1 hds
      rw [(digit?_eq_some_iff hbase).2 hd] at hc
      cases hc
    | some d =>
      have hd := (digit?_eq_some_iff hbase).1 hc
      have hnext : acc * base + d = d + base * acc := by rw [Nat.mul_comm, Nat.add_comm]
      -- the first digit can be no other, so both sides go on from the same number
      have hcons : (∃ ds, List.Forall₂ (IsDigit base) (c :: cs) ds ∧
          ds.foldl (fun a d => d + base * a) acc = n) ↔
          ∃ ds, List.Forall₂ (IsDigit base) cs ds ∧
            ds.foldl (fun a d => d + base * a) (acc * base + d) = n := by
        constructor
        · rintro ⟨ds, hds, hn⟩
          obtain ⟨d', ds', hd', hds', rfl⟩ := List.forall₂_cons_left_iff.1 hds
          obtain rfl := isDigit_unique hbase hd hd'
          exact ⟨ds', hds', by rw [hnext]; exact hn⟩
        · rintro ⟨ds, hds, hn⟩
          exact ⟨d :: ds, .cons hd hds, by rw [← hn, hnext]; rfl⟩
      dsimp only
      split
      · next hfits => rw [ih hfits, hcons]
      · next hlarge =>
        refine ⟨fun h => (nomatch h), ?_⟩
        rintro ⟨h, hn⟩
        obtain ⟨ds, -, hvalue⟩ := hcons.1 h
        have hle := le_foldl hpos ds (acc * base + d)
        omega

theorem digits_eq_ok_iff_spells (hpos : 0 < base) (hbase : base ≤ 16) (hs : s ≠ []) :
    digits base 0 s = .ok n ↔ Spells base s n ∧ n < UInt64.size := by
  rw [digits_eq_ok_iff hpos hbase (by decide)]
  refine and_congr_left fun _ => exists_congr fun ds => ?_
  rw [Nat.ofDigits_eq_foldr, List.foldr_reverse]
  constructor
  · rintro ⟨hds, hn⟩
    refine ⟨?_, hds, hn.symm⟩
    rintro rfl
    exact hs (List.forall₂_nil_right_iff.1 hds)
  · rintro ⟨-, hds, hn⟩
    exact ⟨hds, hn.symm⟩

end

section
variable {base : Nat} {s : List Char} {n : Nat} {c : Char}

theorem Spells.ne_nil (h : Spells base s n) : s ≠ [] := by
  obtain ⟨ds, hne, hds, -⟩ := h
  rintro rfl
  exact hne (List.forall₂_nil_left_iff.1 hds)

/-- Digits are all that a text of digits holds. -/
theorem Spells.notMem (hbase : base ≤ 16) (hc : digit? 16 c = none) (h : Spells base s n) :
    c ∉ s := by
  obtain ⟨ds, -, hds, -⟩ := h
  induction hds with
  | nil => exact List.not_mem_nil
  | cons hd _ ih =>
    rw [List.mem_cons]
    rintro (rfl | hmem)
    · exact not_isDigit hbase hc hd
    · exact ih hmem

theorem Spells.unique (hbase : base ≤ 16) {n' : Nat} (h : Spells base s n)
    (h' : Spells base s n') : n = n' := by
  obtain ⟨ds, -, hds, rfl⟩ := h
  obtain ⟨ds', -, hds', rfl⟩ := h'
  rw [List.right_unique_forall₂' (isDigit_unique hbase) hds hds']

/-- Digits do not begin with a plus sign. -/
theorem not_spells_plus (hbase : base ≤ 16) : ¬Spells base ('+' :: s) n := fun h =>
  h.notMem hbase (c := '+') rfl (List.mem_cons_self ..)

theorem Numeral.notMem (hbase : base ≤ 16) (hc : digit? 16 c = none) (hplus : c ≠ '+')
    (h : Numeral base s n) : c ∉ s := by
  cases h with
  | plain h => exact h.notMem hbase hc
  | plus h =>
    rw [List.mem_cons]
    rintro (rfl | hmem)
    · exact hplus rfl
    · exact h.notMem hbase hc hmem

/-- **Reading gives a number just where the text is a numeral of it.** -/
theorem numeral_eq_ok_iff (hpos : 0 < base) (hbase : base ≤ 16) :
    numeral base s = .ok n ↔ Numeral base s n ∧ n < UInt64.size := by
  unfold numeral
  split
  · refine ⟨fun h => (nomatch h), ?_⟩
    rintro ⟨⟨h⟩, -⟩
    exact absurd rfl h.ne_nil
  · refine ⟨fun h => (nomatch h), ?_⟩
    rintro ⟨h | h, -⟩
    · exact absurd h (not_spells_plus hbase)
    · exact absurd rfl h.ne_nil
  · next cs hcs =>
    rw [digits_eq_ok_iff_spells hpos hbase (by simpa using hcs)]
    refine and_congr_left fun _ => ⟨.plus, ?_⟩
    rintro (h | h)
    · exact absurd h (not_spells_plus hbase)
    · exact h
  · next hne _ hplus =>
    rw [digits_eq_ok_iff_spells hpos hbase hne]
    refine and_congr_left fun _ => ⟨.plain, ?_⟩
    rintro (h | h)
    · exact h
    · exact absurd rfl (hplus _)

theorem Numeral.unique (hbase : base ≤ 16) {n' : Nat} (h : Numeral base s n)
    (h' : Numeral base s n') : n = n' := by
  cases h with
  | plain h =>
    cases h' with
    | plain h' => exact h.unique hbase h'
    | plus => exact absurd h (not_spells_plus hbase)
  | plus h =>
    cases h' with
    | plain h' => exact absurd h' (not_spells_plus hbase)
    | plus h' => exact h.unique hbase h'

/-- A decimal numeral does not begin like a hexadecimal one. -/
theorem not_numeral_lower : ¬Numeral 10 ('0' :: 'x' :: s) n := fun h =>
  h.notMem (c := 'x') (by decide) rfl (by decide) (by simp)

theorem not_numeral_upper : ¬Numeral 10 ('0' :: 'X' :: s) n := fun h =>
  h.notMem (c := 'X') (by decide) rfl (by decide) (by simp)

/-- **Reading gives a number just where the text denotes it.** -/
theorem number_eq_ok_iff : number s = .ok n ↔ Number s n ∧ n < UInt64.size := by
  unfold number
  split
  · rw [numeral_eq_ok_iff (by decide) (by decide)]
    refine and_congr_left fun _ => ⟨.lower, ?_⟩
    intro h
    cases h with
    | decimal h => exact absurd h not_numeral_lower
    | lower h => exact h
  · rw [numeral_eq_ok_iff (by decide) (by decide)]
    refine and_congr_left fun _ => ⟨.upper, ?_⟩
    intro h
    cases h with
    | decimal h => exact absurd h not_numeral_upper
    | upper h => exact h
  · next hlower hupper =>
    rw [numeral_eq_ok_iff (by decide) (by decide)]
    refine and_congr_left fun _ => ⟨.decimal, ?_⟩
    intro h
    cases h with
    | decimal h => exact h
    | lower => exact absurd rfl (hlower _)
    | upper => exact absurd rfl (hupper _)

/-- **A text denotes one number at most.** -/
theorem Number.unique {n' : Nat} (h : Number s n) (h' : Number s n') : n = n' := by
  cases h with
  | decimal h =>
    cases h' with
    | decimal h' => exact h.unique (by decide) h'
    | lower => exact absurd h not_numeral_lower
    | upper => exact absurd h not_numeral_upper
  | lower h =>
    cases h' with
    | decimal h' => exact absurd h' not_numeral_lower
    | lower h' => exact h.unique (by decide) h'
  | upper h =>
    cases h' with
    | decimal h' => exact absurd h' not_numeral_upper
    | upper h' => exact h.unique (by decide) h'

/-- Nothing but digits, the plus sign and the letters of the marks occurs in a number. -/
theorem Number.notMem (hc : digit? 16 c = none) (hplus : c ≠ '+') (hlower : c ≠ 'x')
    (hupper : c ≠ 'X') (h : Number s n) : c ∉ s := by
  have hzero : c ≠ '0' := by
    rintro rfl
    exact nomatch hc
  cases h with
  | decimal h => exact h.notMem (by decide) hc hplus
  | lower h => simp [hzero, hlower, h.notMem (by decide) hc hplus]
  | upper h => simp [hzero, hupper, h.notMem (by decide) hc hplus]

end

/-! ## Writing -/

section
variable {base : Nat}

theorem Spells.concat {s : List Char} {n d : Nat} {c : Char} (h : Spells base s n)
    (hd : IsDigit base c d) : Spells base (s ++ [c]) (base * n + d) := by
  obtain ⟨ds, -, hds, rfl⟩ := h
  refine ⟨ds ++ [d], by simp, List.rel_append hds (.cons hd .nil), ?_⟩
  rw [List.reverse_append, List.reverse_singleton, List.singleton_append, Nat.ofDigits_cons,
    Nat.add_comm]

/-- **Every number has its digits.** -/
theorem spells_toDigits (hbase : base ≤ 16) (hone : 1 < base) (n : Nat) :
    Spells base (Nat.toDigits base n) n := by
  induction n using Nat.strong_induction_on with
  | _ n ih =>
    rw [Nat.toDigits_eq_if hone]
    split
    · next hlt => exact ⟨[n], by simp, .cons (isDigit_digitChar hbase hlt) .nil, by simp⟩
    · next hle =>
      have hdigit := isDigit_digitChar hbase (Nat.mod_lt n (Nat.zero_lt_of_lt hone))
      have hfewer : n / base < n := Nat.div_lt_self (by omega) hone
      have hmore := (ih (n / base) hfewer).concat hdigit
      rwa [Nat.div_add_mod] at hmore

end

end Hest.Text
