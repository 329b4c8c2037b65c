import Hest.Proofs.TableDecision

/-!
# The checksum of a table

A table that a publisher is shown carries the one byte that makes it valid: with any other byte in
that place it is not, nor with any other of its bytes changed alone.

* `Sealed` says this of a table and of what it was before the checksum was stored.
* `sealed_of_shown`: whatever table is to be published, what the publisher is shown is sealed.
* `Genuine.sealed`: a table that is valid and is known but for its checksum is known altogether, so
  the calls of a run tell every byte of the tables that are shown in it.
* `table_checksum_unique` joins these with how one byte changes a sum.
-/

namespace Hest.Table

variable {ω : Type}

/-! ## Sealed tables -/

/-- `table` is `plain` with a checksum: the byte that makes it valid, in the place of a zero byte
and the only one that does. -/
structure Sealed (plain table : Bytes) : Prop where
  vacant : plain[DescriptionHeader.checksumOffset]? = some 0
  eq_set : table = plain.set DescriptionHeader.checksumOffset (Checksum.complement plain)
  balanced : Checksum.balanced table
  only : ∀ v, Checksum.balanced (table.set DescriptionHeader.checksumOffset v) ↔
    v = Checksum.complement plain

theorem sealed_set {plain : Bytes} (h : plain[DescriptionHeader.checksumOffset]? = some 0) :
    Sealed plain
      (plain.set DescriptionHeader.checksumOffset (Checksum.complement plain)) where
  vacant := h
  eq_set := rfl
  balanced := (Checksum.balanced_set_zero_iff h _).2 rfl
  only v := by rw [List.set_set, Checksum.balanced_set_zero_iff h]

/-! ## What a publisher is shown -/

/-- **What a publisher is shown is the table with its checksum.** -/
theorem sealed_of_shown {publish : Publisher ω} {t : Table} {w : ω} {o : Offer}
    (h : o ∈ shown publish t w) : Sealed t.bytes o.table := by
  cases hphase : t.phase with
  | empty | installed =>
    obtain ⟨-, -, hshown⟩ := install_idle publish w (by simp [isBuilt, hphase] : t.isBuilt = false)
    rw [hshown] at h
    cases h
  | building c =>
    obtain ⟨-, -, hshown⟩ := install_offered publish w (by simp [isBuilt, hphase] : t.isBuilt) rfl
    rw [hshown, List.mem_singleton] at h
    subst h
    have hvacant : t.bytes[DescriptionHeader.checksumOffset]? = some 0 := by
      rw [bytes, hphase]
      exact c.getElem?_checksum t.identity
    exact sealed_set hvacant

/-! ## Tables of a run -/

section
variable (identity : Identity) (as : List Addition)

theorem length_patchedHeader : (patchedHeader identity as).length = ErrorSourceHeader.size := by
  simp [patchedHeader]

/-- Where the length and the number of descriptors are written over, the checksum does not stand. -/
theorem getElem?_assembled_checksum :
    (assembled identity as)[DescriptionHeader.checksumOffset]? = some 0 := by
  have hplace : DescriptionHeader.checksumOffset < (patchedHeader identity as).length := by
    rw [length_patchedHeader]; decide
  have hlength : DescriptionHeader.lengthOffset +
      (LittleEndian.encode 4 (40 + totalLength as)).length ≤ DescriptionHeader.checksumOffset := by
    rw [LittleEndian.length_encode]; decide
  rw [assembled, List.getElem?_append_left hplace, patchedHeader,
    Bytes.getElem?_overlayAt_of_outside (.inl (by decide)),
    Bytes.getElem?_overlayAt_of_outside (.inr hlength)]
  rfl

end

/-- **A table is known by its additions**, its checksum too: it is the one byte that is missing for
the table to be valid. -/
theorem Genuine.sealed {identity : Identity} {as : List Addition} {table : Bytes}
    (h : Genuine identity as table) : Sealed (assembled identity as) table := by
  have hvacant := getElem?_assembled_checksum identity as
  have hlong : DescriptionHeader.checksumOffset + 1 < (assembled identity as).length := by
    rw [assembled, List.length_append, length_patchedHeader]
    exact Nat.lt_add_right _ (by decide)
  have hlen : table.length = (assembled identity as).length :=
    Bytes.length_eq_of_agree h.same hlong
  obtain ⟨v, hv⟩ : ∃ v, table[DescriptionHeader.checksumOffset]? = some v :=
    ⟨_, List.getElem?_eq_getElem (by omega)⟩
  have hset := Bytes.eq_set_of_agree h.same hv hlen
  have hv : v = Checksum.complement (assembled identity as) := by
    rw [← Checksum.balanced_set_zero_iff hvacant, ← hset, Checksum.balanced_iff]
    exact h.balanced
  rw [hset, hv]
  exact sealed_set hvacant

/-! ## The checksum -/

/-- **The checksum is unique.**  For all byte strings, tables and runs:

* bytes are valid when they add up to a multiple of 256;
* in the place of a zero byte, wherever it stands, the complement makes them valid and no other byte
  does;
* of valid bytes none can be changed alone and leave them valid;
* what a publisher is shown, whatever the table and the publisher, is the table with the only byte
  in the place of the checksum that makes it valid;
* in a run of calls from an empty table on, it is so for every table that is shown, taken or not,
  and the table is what the blocks appended before make. -/
theorem table_checksum_unique (t : Table) (publish : Publisher ω) (identity : Identity)
    (calls : List (Call ω)) (w : ω) :
    (∀ b : Bytes, Checksum.balanced b ↔ 256 ∣ (b.map UInt8.toNat).sum) ∧
    (∀ (b : Bytes) (i : Nat) (v : UInt8), b[i]? = some 0 →
      (Checksum.balanced (b.set i v) ↔ v = Checksum.complement b)) ∧
    (∀ (b : Bytes) (i : Nat) (x v : UInt8), Checksum.balanced b → b[i]? = some x → v ≠ x →
      ¬Checksum.balanced (b.set i v)) ∧
    (∀ o ∈ shown publish t w, Sealed t.bytes o.table) ∧
    (let history := (performAll calls (({ identity } : Table), w)).value
     ∀ before e, before ++ [e] <+: history → ∀ o ∈ e.offers,
      Sealed (assembled identity (additions before)) o.table) := by
  refine ⟨Checksum.balanced_iff_dvd, ?_, ?_, ?_, ?_⟩
  · intro b i v hzero
    exact Checksum.balanced_set_zero_iff hzero v
  · intro b i x v hb hx hne hset
    exact hne ((Checksum.balanced_set_of_balanced_iff hb hx v).1 hset)
  · intro o ho
    exact sealed_of_shown ho
  · intro history before e hpre o ho
    have hkept : Kept identity history _ := kept_performAll w (kept_nil identity) calls
    obtain ⟨-, hgenuine⟩ := hkept.genuine before e hpre o ho
    exact hgenuine.sealed

-- the same table is shown twice: the first publisher refuses it
example :
    let calls : List (Call Unit) := [.append [7] 1 1, .install fun _ => pure (.error .aborted),
      .install fun _ => pure (.ok ⟨0⟩)]
    ((performAll calls (⟨.standard, .empty⟩, ())).value.flatMap Event.offers).map
      (·.table[DescriptionHeader.checksumOffset]?) = [some 0xe2, some 0xe2] := by
  rfl

end Hest.Table
