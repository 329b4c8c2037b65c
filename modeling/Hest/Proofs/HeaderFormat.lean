import Hest.Proofs.Codec

/-!
# The format of table headers

Where the fields of a table header stand, and that its writer and its reader both keep to it, for
every header and every buffer.

* `DescriptionHeader.StandsIn` and `ErrorSourceHeader.StandsIn` are the format, field by field.
* `DescriptionHeader.readFrom_eq_ok_iff`: a header is read just where its fields stand.
* `ErrorSourceHeader.readFrom_of_written`: where a header stands, it is given or refused by its
  signature.
* `table_headers_exact` joins what writing and reading do to a buffer of any length.
-/

namespace Hest

open LittleEndian

/-! ## Description headers -/

namespace DescriptionHeader

/-- The fields of a header, each at its offset in a buffer. -/
structure StandsIn (h : DescriptionHeader) (b : Bytes) : Prop where
  signature : b.window 0 4 = h.signature.bytes
  length : LittleEndian.decode (b.window 4 4) = h.length.toNat
  revision : b.window 8 1 = [h.revision]
  checksum : b.window 9 1 = [h.checksum]
  oemId : b.window 10 6 = h.identity.oemId.bytes
  oemTableId : b.window 16 8 = h.identity.oemTableId.bytes
  oemRevision : LittleEndian.decode (b.window 24 4) = h.identity.oemRevision.toNat
  creatorId : LittleEndian.decode (b.window 28 4) = h.identity.creatorId.toNat
  creatorRevision : LittleEndian.decode (b.window 32 4) = h.identity.creatorRevision.toNat

theorem overwrites (h : DescriptionHeader) : Overwrites 36 .tooShort h.encode h.writeTo :=
  codec.overwrites LayoutError.tooShort h

theorem recovers : Recovers 36 (.tooShort 36) encode readFrom :=
  codec.recovers fun b => by
    rw [readFrom, Codec.read?]
    cases h : Block.ofPrefix? 36 b <;> simp [codec, size, h]

theorem standsIn_encode (h : DescriptionHeader) (rest : Bytes) : h.StandsIn (h.encode ++ rest) := by
  constructor <;> simp [encode, Identity.encode, decode_encode_mod]

/-- A buffer shows one header at most. -/
theorem StandsIn.unique {h h' : DescriptionHeader} {b : Bytes} (s : h.StandsIn b)
    (s' : h'.StandsIn b) : h = h' := by
  have hsignature := Block.ext (s.signature.symm.trans s'.signature)
  have hlength := UInt32.toNat_inj.1 (s.length.symm.trans s'.length)
  have hrevision := List.cons.inj (s.revision.symm.trans s'.revision)
  have hchecksum := List.cons.inj (s.checksum.symm.trans s'.checksum)
  have hidentity : h.identity = h'.identity := by
    have hid := Block.ext (s.oemId.symm.trans s'.oemId)
    have htable := Block.ext (s.oemTableId.symm.trans s'.oemTableId)
    have hoem := UInt32.toNat_inj.1 (s.oemRevision.symm.trans s'.oemRevision)
    have hcreator := UInt32.toNat_inj.1 (s.creatorId.symm.trans s'.creatorId)
    have hmade := UInt32.toNat_inj.1 (s.creatorRevision.symm.trans s'.creatorRevision)
    cases hi : h.identity
    cases hi' : h'.identity
    simp_all
  cases h
  cases h'
  simp_all

/-- **A header is read just where its fields stand.** -/
theorem readFrom_eq_ok_iff {h : DescriptionHeader} {b : Bytes} :
    readFrom b = .ok h ↔ size ≤ b.length ∧ h.StandsIn b := by
  constructor
  · intro hread
    obtain ⟨rest, rfl⟩ := (recovers.read_iff b h).1 hread
    exact ⟨by simp, h.standsIn_encode rest⟩
  · rintro ⟨hlong, hstands⟩
    obtain ⟨h', hread, -⟩ := recovers.rewritten b hlong
    obtain ⟨rest, rfl⟩ := (recovers.read_iff b h').1 hread
    rwa [hstands.unique (h'.standsIn_encode rest)]

end DescriptionHeader

/-! ## Error source headers -/

namespace ErrorSourceHeader

/-- The fields of a header, each at its offset in a buffer. -/
structure StandsIn (k : ErrorSourceHeader) (b : Bytes) : Prop where
  description : k.description.StandsIn b
  sourceCount : LittleEndian.decode (b.window 36 4) = k.sourceCount.toNat

theorem overwrites (k : ErrorSourceHeader) : Overwrites 40 .tooShort k.encode k.writeTo :=
  codec.overwrites LayoutError.tooShort k

theorem readFrom_of_lt {b : Bytes} (h : b.length < 40) :
    readFrom b = .error (.tooShort 40 b.length) := by
  simp [readFrom, Block.ofPrefix?, Nat.not_le.2 h, size]

/-- Where a header stands, its signature decides whether it is given. -/
theorem readFrom_of_written {k : ErrorSourceHeader} {b : Bytes} (h : k.encode <+: b) :
    readFrom b = if k.description.signature = signature then .ok k
      else .error (.badSignature k.description.signature) := by
  have hread : (Block.ofPrefix? 40 b).map decode = some k := codec.read?_eq_some_iff.2 h
  obtain ⟨x, hx, rfl⟩ := Option.map_eq_some_iff.1 hread
  rw [readFrom, hx]

theorem exists_written {b : Bytes} (h : 40 ≤ b.length) :
    ∃ k : ErrorSourceHeader, k.encode <+: b ∧ k.encode = b.take 40 := by
  obtain ⟨k, hread, hbytes⟩ := codec.read?_of_le h
  exact ⟨k, codec.read?_eq_some_iff.1 hread, hbytes⟩

theorem standsIn_encode (k : ErrorSourceHeader) (rest : Bytes) : k.StandsIn (k.encode ++ rest) where
  description := by
    rw [encode, List.append_assoc]
    exact k.description.standsIn_encode _
  sourceCount := by simp [encode, DescriptionHeader.size, decode_encode_mod]

theorem StandsIn.unique {k k' : ErrorSourceHeader} {b : Bytes} (s : k.StandsIn b)
    (s' : k'.StandsIn b) : k = k' := by
  have hdescription := s.description.unique s'.description
  have hcount := UInt32.toNat_inj.1 (s.sourceCount.symm.trans s'.sourceCount)
  cases k
  cases k'
  simp_all

theorem take_of_written {k : ErrorSourceHeader} {b : Bytes} (h : k.encode <+: b) :
    b.take 4 = k.description.signature.bytes := by
  obtain ⟨rest, rfl⟩ := h
  exact (k.standsIn_encode rest).description.signature

/-- **A header is read just where its fields stand, with the signature of its table.** -/
theorem readFrom_eq_ok_iff {k : ErrorSourceHeader} {b : Bytes} :
    readFrom b = .ok k ↔
      size ≤ b.length ∧ k.description.signature = signature ∧ k.StandsIn b := by
  constructor
  · intro hread
    rcases Nat.lt_or_ge b.length 40 with hlt | hle
    · rw [readFrom_of_lt hlt] at hread
      cases hread
    · obtain ⟨k', hwritten, -⟩ := exists_written hle
      rw [readFrom_of_written hwritten] at hread
      split at hread
      · rename_i hs
        cases hread
        obtain ⟨rest, rfl⟩ := hwritten
        exact ⟨hle, hs, k.standsIn_encode rest⟩
      · cases hread
  · rintro ⟨hlong, hs, hstands⟩
    obtain ⟨k', ⟨rest, rfl⟩, -⟩ := exists_written hlong
    rw [hstands.unique (k'.standsIn_encode rest)] at hs ⊢
    rw [readFrom_of_written (List.prefix_append _ _), if_pos hs]

end ErrorSourceHeader

/-! ## Both headers -/

/-- **Table headers are written and read exactly.**  For every header and every buffer:

* a header is laid over the first 36 bytes (40 for an error source table) and over nothing else, and
  a buffer with fewer is refused and stays as it is;
* a description header is read from any 36 bytes, which are those that it is written as, and is read
  just where its fields stand at their offsets;
* an error source header is read from 40 bytes that begin with `HEST`, and is written as they are; a
  buffer that is too short is refused for that, and then one with another signature;
* a header that was written is read back, unless it is one of another kind of table. -/
theorem table_headers_exact :
    (∀ h : DescriptionHeader, Overwrites 36 .tooShort h.encode h.writeTo ∧
      ∀ b, 36 ≤ b.length → DescriptionHeader.readFrom (h.writeTo b).buffer = .ok h) ∧
    (∀ b, 36 ≤ b.length → ∃ h, DescriptionHeader.readFrom b = .ok h ∧ h.encode = b.take 36) ∧
    (∀ b, b.length < 36 → DescriptionHeader.readFrom b = .error (.tooShort 36 b.length)) ∧
    (∀ h b, DescriptionHeader.readFrom b = .ok h ↔ 36 ≤ b.length ∧ h.StandsIn b) ∧
    (∀ k : ErrorSourceHeader, Overwrites 40 .tooShort k.encode k.writeTo ∧
      ∀ b, 40 ≤ b.length → ErrorSourceHeader.readFrom (k.writeTo b).buffer =
        if k.description.signature.bytes = [0x48, 0x45, 0x53, 0x54] then .ok k
        else .error (.badSignature k.description.signature)) ∧
    (∀ b, 40 ≤ b.length → b.take 4 = [0x48, 0x45, 0x53, 0x54] →
      ∃ k, ErrorSourceHeader.readFrom b = .ok k ∧ k.encode = b.take 40) ∧
    (∀ b, b.length < 40 → ErrorSourceHeader.readFrom b = .error (.tooShort 40 b.length)) ∧
    (∀ b, 40 ≤ b.length → b.take 4 ≠ [0x48, 0x45, 0x53, 0x54] →
      ∃ found, found.bytes = b.take 4 ∧
        ErrorSourceHeader.readFrom b = .error (.badSignature found)) ∧
    (∀ k b, ErrorSourceHeader.readFrom b = .ok k ↔
      40 ≤ b.length ∧ k.description.signature.bytes = [0x48, 0x45, 0x53, 0x54] ∧ k.StandsIn b) := by
  have hsignature (s : Block 4) : s.bytes = [0x48, 0x45, 0x53, 0x54] ↔
      s = ErrorSourceHeader.signature := ⟨fun h => Block.ext h, congrArg Block.bytes⟩
  simp only [hsignature]
  refine ⟨fun h => ⟨h.overwrites, fun b hb => ?_⟩, DescriptionHeader.recovers.rewritten,
    DescriptionHeader.recovers.refused, fun _ _ => DescriptionHeader.readFrom_eq_ok_iff,
    fun k => ⟨k.overwrites, fun b hb => ?_⟩, fun b hb hs => ?_,
    fun _ => ErrorSourceHeader.readFrom_of_lt, fun b hb hs => ?_,
    fun _ _ => ErrorSourceHeader.readFrom_eq_ok_iff⟩
  · rw [h.overwrites.written b hb, DescriptionHeader.recovers.read_iff]
    exact List.prefix_append _ _
  · rw [k.overwrites.written b hb]
    exact ErrorSourceHeader.readFrom_of_written (List.prefix_append _ _)
  · obtain ⟨k, hwritten, hbytes⟩ := ErrorSourceHeader.exists_written hb
    rw [ErrorSourceHeader.take_of_written hwritten, hsignature] at hs
    exact ⟨k, by rw [ErrorSourceHeader.readFrom_of_written hwritten, if_pos hs], hbytes⟩
  · obtain ⟨k, hwritten, -⟩ := ErrorSourceHeader.exists_written hb
    have htake := ErrorSourceHeader.take_of_written hwritten
    rw [htake, ne_eq, hsignature] at hs
    exact ⟨_, htake.symm, by rw [ErrorSourceHeader.readFrom_of_written hwritten, if_neg hs]⟩

end Hest
