import Hest.Header.Description
import Hest.Message
import Hest.Proofs.Bytes

/-!
# Layouts read back

Every layout of this library is a record written field by field.  Reading the bytes of a record
gives the record (`decode_encode`, one for each layout), and any bytes of the right number are those
of the record read from them (`encode_decode`).  A reader of a whole buffer therefore gives back a
header that stands at its start, whatever follows it (`readFrom_encode`).
-/

namespace Hest

open LittleEndian

/-! ## Table headers -/

theorem Identity.decode_encode (i : Identity) : decode ⟨i.encode, i.length_encode⟩ = i := by
  simp [decode, encode, Block.window, ofNat_decode_encode_32]

theorem Identity.encode_decode (b : Block 26) : (decode b).encode = b.bytes := by
  simp only [encode, decode, encode_ofNat_decode_32]
  simp [-List.append_assoc, Bytes.window_append_window]

theorem DescriptionHeader.decode_encode (h : DescriptionHeader) :
    decode ⟨h.encode, h.length_encode⟩ = h := by
  simp [decode, encode, Block.window, ofNat_decode_encode_32, LittleEndian.decode,
    Identity.decode_encode]

theorem DescriptionHeader.encode_decode (b : Block 36) : (decode b).encode = b.bytes := by
  simp only [encode, decode, encode_ofNat_decode_32, Identity.encode_decode]
  rw [← List.singleton_append, singleton_ofNat_decode, singleton_ofNat_decode]
  simp [-List.append_assoc, Bytes.window_append_window]

theorem ErrorSourceHeader.decode_encode (h : ErrorSourceHeader) :
    decode ⟨h.encode, h.length_encode⟩ = h := by
  simp [decode, encode, Block.window, ofNat_decode_encode_32, DescriptionHeader.decode_encode,
    DescriptionHeader.size]

theorem ErrorSourceHeader.encode_decode (b : Block 40) : (decode b).encode = b.bytes := by
  simp only [encode, decode, encode_ofNat_decode_32, DescriptionHeader.encode_decode]
  simp [-List.append_assoc, Bytes.window_append_window]

/-- A table that begins with a header of the right signature is read as that header. -/
theorem ErrorSourceHeader.readFrom_encode {h : ErrorSourceHeader}
    (hs : h.description.signature = signature) (rest : Bytes) :
    readFrom (h.encode ++ rest) = .ok h := by
  have hb : Block.ofPrefix? 40 (h.encode ++ rest) = some ⟨h.encode, h.length_encode⟩ :=
    Block.ofPrefix?_append ⟨h.encode, h.length_encode⟩ rest
  simp [readFrom, hb, decode_encode, hs]

/-! ## Messages -/

theorem Guid.decode_encode (g : Guid) : decode ⟨g.encode, g.length_encode⟩ = g := by
  simp [decode, encode, Block.window, ofNat_decode_encode_32, ofNat_decode_encode_16]

theorem Guid.encode_decode (b : Block 16) : (decode b).encode = b.bytes := by
  simp only [encode, decode, encode_ofNat_decode_32, encode_ofNat_decode_16]
  simp [-List.append_assoc, Bytes.window_append_window]

theorem MessageHeader.decode_encode (h : MessageHeader) :
    decode ⟨h.encode, h.length_encode⟩ = h := by
  simp [decode, encode, Block.window, ofNat_decode_encode_64, Guid.decode_encode]

theorem MessageHeader.encode_decode (b : Block 24) : (decode b).encode = b.bytes := by
  simp only [encode, decode, encode_ofNat_decode_64, Guid.encode_decode]
  simp [-List.append_assoc, Bytes.window_append_window]

theorem Announcement.decode_encode (a : Announcement) :
    decode ⟨a.encode, a.length_encode⟩ = a := by
  simp [decode, encode, Block.window, ofNat_decode_encode_64]

theorem Announcement.encode_decode (b : Block 16) : (decode b).encode = b.bytes := by
  have hfields : (decode b).encode = b.bytes.window 0 8 ++ b.bytes.window 8 8 := by
    rw [encode, decode, encode_ofNat_decode_64, encode_ofNat_decode_64]
    rfl
  rw [hfields, Bytes.window_append_window (by decide), Bytes.window_all (by simp)]

theorem MessageHeader.readFrom_encode (h : MessageHeader) (rest : Bytes) :
    readFrom (h.encode ++ rest) = .ok h := by
  have hb : Block.ofPrefix? 24 (h.encode ++ rest) = some ⟨h.encode, h.length_encode⟩ :=
    Block.ofPrefix?_append ⟨h.encode, h.length_encode⟩ rest
  simp [readFrom, hb, decode_encode]

theorem Announcement.readFrom_encode (a : Announcement) (rest : Bytes) :
    readFrom (a.encode ++ rest) = .ok a := by
  have hb : Block.ofPrefix? 16 (a.encode ++ rest) = some ⟨a.encode, a.length_encode⟩ :=
    Block.ofPrefix?_append ⟨a.encode, a.length_encode⟩ rest
  simp [readFrom, hb, decode_encode]

/-- Sixteen bytes or more hold an announcement, whatever they are. -/
theorem Announcement.readFrom_of_le {payload : Bytes} (h : size ≤ payload.length) :
    ∃ a, readFrom payload = .ok a ∧ a.count.toNat = LittleEndian.decode (payload.window 0 8) ∧
      a.length.toNat = LittleEndian.decode (payload.window 8 8) := by
  obtain ⟨b, hb, hbytes⟩ := Block.ofPrefix?_of_le (show 16 ≤ payload.length from h)
  have hfield (offset : Nat) (hle : offset + 8 ≤ 16) :
      b.bytes.window offset 8 = payload.window offset 8 := by
    rw [hbytes, Bytes.window_take hle]
  refine ⟨decode b, by rw [readFrom, hb], ?_, ?_⟩
  · rw [← hfield 0 (by decide)]
    exact toNat_ofNat_decode_64 (Bytes.length_window (by simp))
  · rw [← hfield 8 (by decide)]
    exact toNat_ofNat_decode_64 (Bytes.length_window (by simp))

end Hest
