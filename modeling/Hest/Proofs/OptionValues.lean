import Hest.CommandLine.Value
import Hest.Proofs.Numerals

/-!
# What option values are read as

Numbers, generic sources and descriptor files as they are written on a command line: which texts are
accepted, and what each of them gives.

* `readNumber_eq_ok_iff` and `readWord_eq_ok_iff`: a number is read just where the grammar of
  numerals has it, and it fits.
* `SourceEntry.read_eq_ok_iff`: no number holds an `@`, so the first one in the value of a generic
  source is its only one.
* `DescriptorFile.read_append_eq_ok_iff`: the value of a descriptor file is split at its last `@`,
  whatever its path holds.
* `option_numbers_exact` and `descriptor_files_exact` join these.
-/

namespace Hest.CommandLine

open Text (Numeral Number)

theorem bind_eq_ok_iff {ε α β : Type} {x : Except ε α} {f : α → Except ε β} {b : β} :
    x >>= f = .ok b ↔ ∃ a, x = .ok a ∧ f a = .ok b := by
  constructor
  · intro h
    cases x with
    | error e => cases h
    | ok a => exact ⟨a, rfl, h⟩
  · rintro ⟨a, rfl, h⟩
    exact h

theorem mapError_eq_ok_iff {ε ε' α : Type} {x : Except ε α} {f : ε → ε'} {a : α} :
    x.mapError f = .ok a ↔ x = .ok a := by
  cases x <;> simp [Except.mapError]

/-! ## Splits -/

section
variable {mark : Char} {s front back : List Char}

theorem splitFirst?_append (h : mark ∉ front) :
    splitFirst? mark (front ++ mark :: back) = some (front, back) := by
  induction front with
  | nil => simp [splitFirst?]
  | cons c cs ih =>
    rw [List.mem_cons, not_or] at h
    rw [List.cons_append, splitFirst?, if_neg (Ne.symm h.1), ih h.2, Option.map_some]

theorem append_of_splitFirst? (h : splitFirst? mark s = some (front, back)) :
    s = front ++ mark :: back ∧ mark ∉ front := by
  induction s generalizing front with
  | nil => cases h
  | cons c cs ih =>
    rw [splitFirst?] at h
    split at h
    · next hc =>
      cases h
      exact ⟨by rw [hc]; rfl, List.not_mem_nil⟩
    · next hc =>
      obtain ⟨⟨front', back'⟩, hrest, heq⟩ := Option.map_eq_some_iff.1 h
      cases heq
      obtain ⟨rfl, hfront⟩ := ih hrest
      exact ⟨rfl, by simp [Ne.symm hc, hfront]⟩

theorem splitLast?_of_notMem (h : mark ∉ s) : splitLast? mark s = none := by
  induction s with
  | nil => rfl
  | cons c cs ih =>
    rw [List.mem_cons, not_or] at h
    simp only [splitLast?, ih h.2]
    exact if_neg (Ne.symm h.1)

theorem splitLast?_append (h : mark ∉ back) :
    splitLast? mark (front ++ mark :: back) = some (front, back) := by
  induction front with
  | nil => simp [splitLast?, splitLast?_of_notMem h]
  | cons c cs ih => simp only [List.cons_append, splitLast?, ih]

/-- A text that holds a mark has a last one. -/
theorem exists_append_of_mem (h : mark ∈ s) :
    ∃ front back, s = front ++ mark :: back ∧ mark ∉ back := by
  obtain ⟨before, after, heq, hbefore⟩ := List.eq_append_cons_of_mem (List.mem_reverse.2 h)
  refine ⟨after.reverse, before.reverse, ?_, by simpa using hbefore⟩
  rw [← s.reverse_reverse, heq]
  simp

end

/-! ## Numbers -/

section
variable {s : List Char} {n : Nat} {w : UInt32}

theorem readNumber_eq_ok_iff : readNumber s = .ok n ↔ Number s n ∧ n < 2 ^ 64 :=
  mapError_eq_ok_iff.trans Text.number_eq_ok_iff

theorem readWord_eq_ok_iff : readWord s = .ok w ↔ Number s w.toNat := by
  unfold readWord
  rw [bind_eq_ok_iff]
  constructor
  · rintro ⟨n, hn, h⟩
    split at h
    · next hlt =>
      cases h
      rw [UInt32.toNat_ofNat_of_lt' hlt]
      exact (readNumber_eq_ok_iff.1 hn).1
    · cases h
  · intro h
    have hw := w.toNat_lt
    refine ⟨w.toNat, readNumber_eq_ok_iff.2 ⟨h, by omega⟩, ?_⟩
    rw [if_pos hw, UInt32.ofNat_toNat]
    rfl

end

/-! ## Generic sources -/

/-- No number holds the mark between source and address. -/
theorem notMem_of_number {s : List Char} {n : Nat} (h : Number s n) : '@' ∉ s :=
  h.notMem rfl (by decide) (by decide) (by decide)

/-- **A generic source is two numbers with a mark between them**, the first of 16 bits and the
second of 64. -/
theorem SourceEntry.read_eq_ok_iff {s : List Char} {e : SourceEntry} : SourceEntry.read s = .ok e ↔
    ∃ id address, s = id ++ '@' :: address ∧ Number id e.sourceId.toNat ∧
      Number address e.statusAddress.toNat := by
  constructor
  · intro h
    unfold read at h
    split at h
    · cases h
    · next id address hsplit =>
      obtain ⟨n, hn, hrest⟩ := bind_eq_ok_iff.1 h
      split at hrest
      · next hlt =>
        obtain ⟨a, ha, heq⟩ := bind_eq_ok_iff.1 hrest
        cases heq
        obtain ⟨hid, -⟩ := readNumber_eq_ok_iff.1 hn
        obtain ⟨haddress, hfits⟩ := readNumber_eq_ok_iff.1 ha
        refine ⟨id, address, (append_of_splitFirst? hsplit).1, ?_, ?_⟩
        · rwa [UInt16.toNat_ofNat_of_lt' hlt]
        · rwa [UInt64.toNat_ofNat_of_lt' hfits]
      · cases hrest
  · rintro ⟨id, address, rfl, hid, haddress⟩
    have hn : readNumber id = .ok e.sourceId.toNat :=
      readNumber_eq_ok_iff.2 ⟨hid, e.sourceId.toNat_lt.trans (by decide)⟩
    have ha : readNumber address = .ok e.statusAddress.toNat :=
      readNumber_eq_ok_iff.2 ⟨haddress, e.statusAddress.toNat_lt⟩
    unfold read
    rw [splitFirst?_append (notMem_of_number hid)]
    refine bind_eq_ok_iff.2 ⟨_, hn, ?_⟩
    rw [if_pos e.sourceId.toNat_lt]
    refine bind_eq_ok_iff.2 ⟨_, ha, ?_⟩
    rw [UInt16.ofNat_toNat, UInt64.ofNat_toNat]
    rfl

/-! ## Descriptor files -/

namespace DescriptorFile

theorem read_of_notMem {s : List Char} (h : '@' ∉ s) :
    DescriptorFile.read s = .ok ⟨.ofList s, 1⟩ := by
  unfold DescriptorFile.read
  rw [splitLast?_of_notMem h]

/-- **A descriptor file is a path and a decimal count behind the last mark.** -/
theorem read_append_eq_ok_iff {path count : List Char} (h : '@' ∉ count) {f : DescriptorFile} :
    DescriptorFile.read (path ++ '@' :: count) = .ok f ↔ path ≠ [] ∧ f.path = .ofList path ∧
      Numeral 10 count f.count ∧ f.count < 2 ^ 64 := by
  unfold DescriptorFile.read
  rw [splitLast?_append h]
  cases path with
  | nil => exact ⟨fun hf => (nomatch hf), fun hf => absurd rfl hf.1⟩
  | cons c cs =>
    refine bind_eq_ok_iff.trans ?_
    constructor
    · rintro ⟨n, hn, hf⟩
      cases hf
      obtain ⟨hnumeral, hfits⟩ :=
        (Text.numeral_eq_ok_iff (by decide) (by decide)).1 (mapError_eq_ok_iff.1 hn)
      exact ⟨List.cons_ne_nil c cs, rfl, hnumeral, hfits⟩
    · rintro ⟨-, hpath, hnumeral, hfits⟩
      have hn := (Text.numeral_eq_ok_iff (by decide) (by decide)).2 ⟨hnumeral, hfits⟩
      refine ⟨f.count, mapError_eq_ok_iff.2 hn, ?_⟩
      rw [← hpath]
      rfl

/-- A path and the decimal form of a count are read back. -/
theorem read_toString {path : String} (hpath : path ≠ "") {n : Nat} (hn : n < 2 ^ 64) :
    DescriptorFile.read (path ++ "@" ++ toString n).toList = .ok ⟨path, n⟩ := by
  have hnumeral : Numeral 10 (Nat.toDigits 10 n) n :=
    .plain (Text.spells_toDigits (by decide) (by decide) n)
  have hmark : '@' ∉ Nat.toDigits 10 n := hnumeral.notMem (by decide) rfl (by decide)
  have htext : (path ++ "@" ++ toString n).toList = path.toList ++ '@' :: Nat.toDigits 10 n := by
    simp [Nat.toString_eq_repr, Nat.toList_repr]
  rw [htext, read_append_eq_ok_iff hmark]
  exact ⟨by simpa using hpath, String.ofList_toList.symm, hnumeral, hn⟩

end DescriptorFile

/-! ## What is accepted -/

/-- **Numbers and generic sources are read just where they are written.**

* A number is accepted just where the text denotes one below 2^64, and then it is this one; in a
  place for 32 bits, just where the number fits those.
* A generic source is accepted just where its text is two numbers with an `@` between them, the
  first of 16 bits and the second of 64, and then it is these; so whichever way a source and an
  address are written, they are read back, and there is one `@`.
* A text denotes one number at most, and every number has a decimal and a hexadecimal form. -/
theorem option_numbers_exact :
    (∀ s n, readNumber s = .ok n ↔ Number s n ∧ n < 2 ^ 64) ∧
    (∀ s w, readWord s = .ok w ↔ Number s w.toNat) ∧
    (∀ s e, SourceEntry.read s = .ok e ↔ ∃ id address, s = id ++ '@' :: address ∧
      Number id e.sourceId.toNat ∧ Number address e.statusAddress.toNat) ∧
    (∀ s e, SourceEntry.read s = .ok e → s.count '@' = 1) ∧
    (∀ s n n', Number s n → Number s n' → n = n') ∧
    (∀ n, Number (Nat.toDigits 10 n) n ∧ Number ('0' :: 'x' :: Nat.toDigits 16 n) n) := by
  refine ⟨fun _ _ => readNumber_eq_ok_iff, fun _ _ => readWord_eq_ok_iff,
    fun _ _ => SourceEntry.read_eq_ok_iff, ?_, fun _ _ _ => Number.unique, ?_⟩
  · intro s e h
    obtain ⟨id, address, rfl, hid, haddress⟩ := SourceEntry.read_eq_ok_iff.1 h
    rw [List.count_append, List.count_cons_self, List.count_eq_zero.2 (notMem_of_number hid),
      List.count_eq_zero.2 (notMem_of_number haddress)]
  · intro n
    exact ⟨.decimal (.plain (Text.spells_toDigits (by decide) (by decide) n)),
      .lower (.plain (Text.spells_toDigits (by decide) (by decide) n))⟩

example : SourceEntry.read "0X+1f@+007".toList = .ok ⟨31, 7⟩ := by rfl

/-- **Descriptor files are read by their last mark.**

* Without an `@` the whole text is the path, of one descriptor.
* A text with an `@` has a last one.  It is accepted just where there is a path before that and a
  decimal numeral of 64 bits behind it, and then these are given.
* So a path and a decimal count are read back, whatever the path holds. -/
theorem descriptor_files_exact :
    (∀ s, '@' ∉ s → DescriptorFile.read s = .ok ⟨.ofList s, 1⟩) ∧
    (∀ s, '@' ∈ s → ∃ path count, s = path ++ '@' :: count ∧ '@' ∉ count) ∧
    (∀ path count, '@' ∉ count → ∀ f, DescriptorFile.read (path ++ '@' :: count) = .ok f ↔
      path ≠ [] ∧ f.path = .ofList path ∧ Numeral 10 count f.count ∧ f.count < 2 ^ 64) ∧
    (∀ path : String, path ≠ "" → ∀ n : UInt64,
      DescriptorFile.read (path ++ "@" ++ toString n.toNat).toList = .ok ⟨path, n.toNat⟩) := by
  refine ⟨fun s => DescriptorFile.read_of_notMem, fun s => exists_append_of_mem, ?_, ?_⟩
  · intro path count h f
    exact DescriptorFile.read_append_eq_ok_iff h
  · intro path h n
    exact DescriptorFile.read_toString h n.toNat_lt

example : DescriptorFile.read "a@b@+08".toList = .ok ⟨"a@b", 8⟩ := by rfl

end Hest.CommandLine
