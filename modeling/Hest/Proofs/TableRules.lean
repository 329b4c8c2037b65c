import Hest.Proofs.ByteSums
import Hest.Proofs.Layout
import Hest.Table.Basic

/-!
# The rules of the table

What appending and publishing do to a table, one lemma for each case, and what the bytes of a table
are.

* `ErrorSourceHeader.overlayAt_fields`: a header whose length and number of descriptors are written
  over in place is the header with those two.
* `Contents.stamped_eq_set`, `Contents.sum_stamped` and `Contents.readFrom_stamped`: what is offered
  to a publisher is the table with one byte changed, sums to zero, and is read as its header.
* `extend_eq_ok_iff`: when a block is appended, and what the table holds then.
* `append_of_ok`, `append_of_error`, `install_empty`, `install_installed`, `install_accepted` and
  `install_refused`: the effect of a call on the table.
-/

namespace Hest

open LittleEndian

/-! ## The bytes of a table -/

/-- A description header in two parts, around its checksum. -/
theorem DescriptionHeader.encode_around (h : DescriptionHeader) :
    h.encode = (h.signature.bytes ++ LittleEndian.encode 4 h.length.toNat ++ [h.revision]) ++
      h.checksum :: h.identity.encode := by
  simp [encode]

/-- A length that is written over another one in place. -/
theorem DescriptionHeader.overlayAt_length (h : DescriptionHeader) (n : UInt32) :
    h.encode.overlayAt lengthOffset (LittleEndian.encode 4 n.toNat) =
      { h with length := n }.encode := by
  have hfields (m : UInt32) : { h with length := m }.encode = h.signature.bytes ++
      (LittleEndian.encode 4 m.toNat ++ (h.revision :: h.checksum :: h.identity.encode)) := by
    simp [encode]
  have hplace : lengthOffset = h.signature.bytes.length := h.signature.length_eq.symm
  rw [hfields n, hplace, show h.encode = _ from hfields h.length]
  exact Bytes.overlayAt_field (by simp)

/-- **A header that is written over in place** is the header with that length and number of
descriptors. -/
theorem ErrorSourceHeader.overlayAt_fields (h : ErrorSourceHeader) (length count : UInt32) :
    (h.encode.overlayAt DescriptionHeader.lengthOffset
        (LittleEndian.encode 4 length.toNat)).overlayAt sourceCountOffset
        (LittleEndian.encode 4 count.toNat) =
      ErrorSourceHeader.encode ⟨{ h.description with length }, count⟩ := by
  have hsize (d : DescriptionHeader) : d.encode.length = sourceCountOffset := d.length_encode
  have hinside : DescriptionHeader.lengthOffset + (LittleEndian.encode 4 length.toNat).length ≤
      h.description.encode.length := by
    rw [hsize, LittleEndian.length_encode]
    decide
  rw [encode, Bytes.overlayAt_append_left hinside, DescriptionHeader.overlayAt_length, encode,
    ← Nat.add_zero sourceCountOffset, Bytes.overlayAt_append_right (hsize _),
    Bytes.overlayAt_zero, Bytes.overlay_of_length_eq (by simp)]

namespace Contents

variable (c : Contents) (identity : Identity)

/-- The bytes of the table in front of its checksum. -/
def front : Bytes :=
  ErrorSourceHeader.signature.bytes ++
    LittleEndian.encode 4 (c.header identity).description.length.toNat ++
      [ErrorSourceHeader.revision]

/-- The bytes of the table behind its checksum. -/
def back : Bytes :=
  identity.encode ++ (LittleEndian.encode 4 c.count.toNat ++ c.descriptors)

theorem length_front : (c.front identity).length = DescriptionHeader.checksumOffset := by
  simp [front, DescriptionHeader.checksumOffset]

theorem bytes_around : c.bytes identity = c.front identity ++ 0 :: c.back identity := by
  simp [bytes, header, front, back, ErrorSourceHeader.encode, DescriptionHeader.encode_around,
    ErrorSourceHeader.new, DescriptionHeader.new]

theorem stamped_around : c.stamped identity =
    c.front identity ++ Checksum.complement (c.bytes identity) :: c.back identity := by
  simp [stamped, header, front, back, ErrorSourceHeader.encode, DescriptionHeader.encode_around,
    ErrorSourceHeader.new, DescriptionHeader.new]

/-- What is offered to a publisher is the table with its checksum byte replaced. -/
theorem stamped_eq_set : c.stamped identity =
    (c.bytes identity).set DescriptionHeader.checksumOffset
      (Checksum.complement (c.bytes identity)) := by
  rw [stamped_around, bytes_around, ← length_front c identity,
    List.set_append_right _ _ (Nat.le_refl _), Nat.sub_self, List.set_cons_zero]

theorem getElem?_checksum : (c.bytes identity)[DescriptionHeader.checksumOffset]? = some 0 := by
  rw [bytes_around, ← length_front c identity, List.getElem?_append_right (Nat.le_refl _)]
  simp

/-- **What is offered to a publisher sums to zero.** -/
theorem sum_stamped : Checksum.sum (c.stamped identity) = 0 := by
  rw [stamped_eq_set, ← Checksum.balanced_iff,
    Checksum.balanced_set_zero_iff (c.getElem?_checksum identity)]

theorem length_bytes : (c.bytes identity).length = 40 + c.descriptors.length := by
  simp [bytes, ErrorSourceHeader.size]

/-- What is offered to a publisher is read as a header with the length of the table and the number
of its descriptors. -/
theorem readFrom_stamped : ∃ h, ErrorSourceHeader.readFrom (c.stamped identity) = .ok h ∧
    h.description.length.toNat = 40 + c.descriptors.length ∧ h.sourceCount = c.count := by
  refine ⟨_, ErrorSourceHeader.readFrom_encode rfl _, ?_, rfl⟩
  exact UInt32.toNat_ofNat_of_lt' c.length_lt

end Contents

namespace Table

variable {ω : Type}

/-! ## Appending -/

theorem length_le_of_usable {block : Bytes} {length : Nat} (hu : usable block length) :
    length ≤ block.length := by
  simp only [usable, Bool.and_eq_true, decide_eq_true_eq] at hu
  exact hu.2

/-- **A block is appended** just when it has the bytes, the table was not published, and neither the
length nor the number of descriptors leaves 32 bits. -/
theorem extend_eq_ok_iff {t grown : Table} {block : Bytes} {length count : Nat} :
    t.extend block length count = .ok grown ↔
      usable block length ∧ t.isInstalled = false ∧
      ∃ c : Contents, grown = { t with phase := .building c } ∧
        c.descriptors = t.descriptors ++ block.take length ∧
        c.count.toNat = t.sourceCount.toNat + count := by
  constructor
  · intro h
    unfold extend at h
    split at h
    · cases h
    rename_i hu
    split at h
    · cases h
    all_goals
      split at h <;> try cases h
      split at h <;> cases h
      rename_i hphase hlen hcount
      exact ⟨by simpa using hu, by simp [isInstalled, hphase], _, rfl, rfl,
        UInt32.toNat_ofNat_of_lt' hcount⟩
  · rintro ⟨hu, hi, c, rfl, hd, hc⟩
    have hlen : 40 + (t.descriptors ++ block.take length).length < UInt32.size := hd ▸ c.length_lt
    have hcount : t.sourceCount.toNat + count < UInt32.size := hc ▸ c.count.toNat_lt
    have heq : (⟨t.descriptors ++ block.take length, .ofNat (t.sourceCount.toNat + count),
        hlen⟩ : Contents) = c := by
      cases c
      simp only [Contents.mk.injEq]
      exact ⟨hd.symm, by rw [← hc]; exact UInt32.ofNat_toNat⟩
    unfold extend
    cases hphase : t.phase with
    | installed => simp [isInstalled, hphase] at hi
    | empty | building => simp only [hu, hlen, hcount, heq]; rfl

theorem append_of_ok {t grown : Table} {block : Bytes} {length count : Nat}
    (h : t.extend block length count = .ok grown) :
    (append block length count t).value = .ok () ∧
      (append block length count t).state = grown := by
  simp only [append, Act.value_bind, Act.state_bind, Act.get_apply, h]
  by_cases hb : t.isBuilt <;> simp [hb]

theorem append_of_error {t : Table} {block : Bytes} {length count : Nat} {e : TableError}
    (h : t.extend block length count = .error e) :
    (append block length count t).value = .error e ∧
      (append block length count t).state = t := by
  simp only [append, Act.value_bind, Act.state_bind, Act.get_apply, h]
  by_cases hu : usable block length <;> simp [hu]

theorem append_state_of_error {t : Table} {block : Bytes} {length count : Nat} {e : TableError}
    (h : (append block length count t).value = .error e) :
    (append block length count t).state = t := by
  cases hx : t.extend block length count with
  | ok grown => rw [(append_of_ok hx).1] at h; cases h
  | error e' => exact (append_of_error hx).2

/-! ## Publishing -/

section
variable (publish : Publisher ω) {t : Table} (w : ω)

theorem install_empty (h : t.phase = .empty) :
    (install publish (t, w)).value = .ok none ∧ (install publish (t, w)).state = (t, w) := by
  simp [install, h]

theorem install_installed (h : t.phase = .installed) :
    (install publish (t, w)).value = .error .alreadyInstalled ∧
      (install publish (t, w)).state = (t, w) := by
  simp [install, h]

/-- A table with descriptors is offered, and is gone once the publisher takes it. -/
theorem install_accepted {c : Contents} (h : t.phase = .building c) {key : TableKey}
    (hv : (publish (c.stamped t.identity) w).value = .ok key) :
    (install publish (t, w)).value = .ok (some key) ∧ (install publish (t, w)).state =
      ({ t with phase := .installed }, (publish (c.stamped t.identity) w).state) := by
  simp [install, h, hv]

theorem install_refused {c : Contents} (h : t.phase = .building c) {status : Status}
    (hv : (publish (c.stamped t.identity) w).value = .error status) :
    (install publish (t, w)).value = .error (.install status) ∧
      (install publish (t, w)).state = (t, (publish (c.stamped t.identity) w).state) := by
  simp [install, h, hv]

end

end Table

end Hest
