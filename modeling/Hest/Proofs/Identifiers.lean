import Hest.Header.Identity
import Mathlib.Data.List.DropRight

/-!
# Identifiers

Which texts are identifiers of a given size, and which bytes these are.

* `isIdentifier_iff_utf8`: to count characters and to count bytes comes to the same, since a
  character that takes more than one byte is not allowed anyway.
* `padded_of_identifier` and `padded_of_not_identifier`: a text is taken or refused as a whole, as
  its characters tell.
* `spaced_eq_iff`: the spaces at the end are all that the bytes do not tell.
-/

namespace Hest.Build

open Bytes (utf8)

/-- A text is an identifier of at most `n` ASCII characters. -/
def IsIdentifier (n : Nat) (text : String) : Prop :=
  text.toList.length ≤ n ∧ ∀ c ∈ text.toList, c.toNat < 128

/-- The characters of a text, then spaces, `n` bytes in all. -/
def spaced (n : Nat) (text : String) : Bytes :=
  text.toList.map (fun c => UInt8.ofNat c.toNat) ++ List.replicate (n - text.toList.length) 0x20

section
variable {n : Nat} {text text' : String}

/-! ## Characters and bytes -/

theorem utf8_eq (text : String) : utf8 text = text.toList.flatMap String.utf8EncodeChar := by
  have hbytes : text.toUTF8 = text.toList.utf8Encode := String.utf8Encode_toList.symm
  rw [utf8, hbytes, List.utf8Encode, List.toList_data_toByteArray]

theorem utf8EncodeChar_of_lt {c : Char} (h : c.toNat < 128) :
    String.utf8EncodeChar c = [UInt8.ofNat c.toNat] := by
  have hle : c.val ≤ 127 := Nat.le_of_lt_succ h
  exact String.utf8EncodeChar_eq_singleton (Char.utf8Size_eq_one_iff.2 hle)

/-- The last byte of a longer character is not ASCII. -/
theorem exists_mem_utf8EncodeChar {c : Char} (h : 128 ≤ c.toNat) :
    ∃ x ∈ String.utf8EncodeChar c, 128 ≤ x.toNat := by
  have hlong : ¬c.val.toNat ≤ 127 := Nat.not_le.2 h
  have hhigh : 128 ≤ (UInt8.ofNat (c.val.toNat % 64 + 128)).toNat := by
    rw [UInt8.toNat_ofNat']
    omega
  refine ⟨_, ?_, hhigh⟩
  simp only [String.utf8EncodeChar, if_neg hlong]
  split
  · simp
  split <;> simp

/-- A text is ASCII in its characters just when it is in its bytes. -/
theorem forall_utf8_iff :
    (∀ x ∈ utf8 text, x.toNat < 128) ↔ ∀ c ∈ text.toList, c.toNat < 128 := by
  simp only [utf8_eq, List.mem_flatMap]
  constructor
  · intro h c hc
    by_contra hhigh
    obtain ⟨x, hx, hle⟩ := exists_mem_utf8EncodeChar (Nat.not_lt.1 hhigh)
    exact absurd (h x ⟨c, hc, hx⟩) (Nat.not_lt.2 hle)
  · rintro h x ⟨c, hc, hx⟩
    rw [utf8EncodeChar_of_lt (h c hc), List.mem_singleton] at hx
    subst hx
    rw [UInt8.toNat_ofNat']
    exact (Nat.mod_le _ _).trans_lt (h c hc)

/-- ASCII characters have one byte each. -/
theorem flatMap_utf8EncodeChar {s : List Char} (h : ∀ c ∈ s, c.toNat < 128) :
    s.flatMap String.utf8EncodeChar = s.map fun c => UInt8.ofNat c.toNat := by
  induction s with
  | nil => rfl
  | cons c cs ih =>
    rw [List.forall_mem_cons] at h
    rw [List.flatMap_cons, utf8EncodeChar_of_lt h.1, ih h.2]
    rfl

theorem utf8_of_ascii (h : ∀ c ∈ text.toList, c.toNat < 128) :
    utf8 text = text.toList.map fun c => UInt8.ofNat c.toNat := by
  rw [utf8_eq, flatMap_utf8EncodeChar h]

/-- **Characters and bytes tell the same texts to be identifiers.** -/
theorem isIdentifier_iff_utf8 :
    IsIdentifier n text ↔ (utf8 text).length ≤ n ∧ ∀ x ∈ utf8 text, x.toNat < 128 := by
  rw [forall_utf8_iff]
  refine and_congr_left fun hascii => ?_
  rw [utf8_of_ascii hascii, List.length_map]

theorem spaced_of_identifier (h : IsIdentifier n text) :
    spaced n text = utf8 text ++ List.replicate (n - (utf8 text).length) 0x20 := by
  rw [utf8_of_ascii h.2, List.length_map, spaced]

/-- A text that is an identifier is taken, as its characters and then spaces. -/
theorem padded_of_identifier (h : IsIdentifier n text) :
    ∃ b, Identity.padded n text = .ok b ∧ b.bytes = spaced n text := by
  have hall : (utf8 text).length ≤ n ∧ (utf8 text).all (·.toNat < 128) := by
    simpa using isIdentifier_iff_utf8.1 h
  exact ⟨_, dif_pos hall, (spaced_of_identifier h).symm⟩

theorem padded_of_not_identifier (h : ¬IsIdentifier n text) :
    Identity.padded n text = .error (.invalidIdentifier n) :=
  dif_neg fun hall => h (isIdentifier_iff_utf8.2 (by simpa using hall))

/-! ## Spaces at the end -/

/-- The characters of a text without the spaces at its end. -/
def trimmed (text : String) : List Char := text.toList.rdropWhile (· = ' ')

theorem exists_trimmed_append (text : String) :
    ∃ k, text.toList = trimmed text ++ List.replicate k ' ' := by
  have hspaces : text.toList.rtakeWhile (· = ' ') =
      List.replicate (text.toList.rtakeWhile (· = ' ')).length ' ' :=
    List.eq_replicate_of_mem fun c hc => by simpa using List.mem_rtakeWhile_imp hc
  refine ⟨(text.toList.rtakeWhile (· = ' ')).length, ?_⟩
  rw [← hspaces]
  exact (List.rdropWhile_append_rtakeWhile ..).symm

theorem rdropWhile_append_replicate (s : List Char) (k : Nat) :
    (s ++ List.replicate k ' ').rdropWhile (· = ' ') = s.rdropWhile (· = ' ') := by
  induction k with
  | zero => simp
  | succ k ih =>
    rw [List.replicate_succ', ← List.append_assoc, List.rdropWhile_concat_pos _ _ _ (by simp), ih]

/-- The bytes are those of the text without the spaces at its end. -/
theorem spaced_eq_of_trimmed (h : text.toList.length ≤ n) :
    spaced n text = (trimmed text).map (fun c => UInt8.ofNat c.toNat) ++
      List.replicate (n - (trimmed text).length) 0x20 := by
  obtain ⟨k, hk⟩ := exists_trimmed_append text
  have hlength : text.toList.length = (trimmed text).length + k := by
    rw [hk, List.length_append, List.length_replicate]
  have hfill : n - (trimmed text).length = k + (n - text.toList.length) := by omega
  rw [spaced, hfill, ← List.replicate_append_replicate, ← List.append_assoc]
  congr 1
  rw [hk, List.map_append, List.map_replicate]
  rfl

/-- The bytes of an identifier tell its characters, up to the spaces at its end. -/
theorem trimmed_eq_of_spaced (h : IsIdentifier n text) :
    trimmed text = ((spaced n text).map fun x => Char.ofNat x.toNat).rdropWhile (· = ' ') := by
  have hchars : (text.toList.map fun c => UInt8.ofNat c.toNat).map (fun x => Char.ofNat x.toNat) =
      text.toList := by
    rw [List.map_map]
    refine (List.map_congr_left fun c hc => ?_).trans (List.map_id _)
    have hc := h.2 c hc
    rw [Function.comp_apply, UInt8.toNat_ofNat', Nat.mod_eq_of_lt (by omega), Char.ofNat_toNat, id]
  rw [spaced, List.map_append, hchars, List.map_replicate]
  exact (rdropWhile_append_replicate _ _).symm

/-- **Two identifiers are the same bytes just when they differ by spaces at the end.** -/
theorem spaced_eq_iff (h : IsIdentifier n text) (h' : IsIdentifier n text') :
    spaced n text = spaced n text' ↔ trimmed text = trimmed text' := by
  constructor
  · intro heq
    rw [trimmed_eq_of_spaced h, heq, ← trimmed_eq_of_spaced h']
  · intro heq
    rw [spaced_eq_of_trimmed h.1, heq, ← spaced_eq_of_trimmed h'.1]

end

end Hest.Build
