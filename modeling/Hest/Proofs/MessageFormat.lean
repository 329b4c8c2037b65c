import Hest.Proofs.Codec

/-!
# The format of messages

A message is a header, an announcement and the descriptors that it announces.  Both sides of the
channel compute sizes and offsets from these three, so each must be written, read and cut out
exactly, for every buffer and with sizes that come from the other side.

* `MessageHeader.overwrites`, `MessageHeader.recovers` and the same of `Announcement`: the two
  layouts are written and read exactly.
* `Announcement.descriptors_of_append`, `descriptors_of_overflow` and `descriptors_of_short`: which
  bytes an announcement stands for.
* `messageSize_of_lt` and `forBuffer_of_lt`: a buffer of the size that is computed for `n` bytes has
  room for exactly them.
* `message_parts_exact` joins these.
-/

namespace Hest

open LittleEndian

/-! ## The two layouts -/

theorem Guid.encode_injective : Function.Injective Guid.encode := fun g g' h => by
  rw [← g.decode_encode, ← g'.decode_encode]
  congr 1
  exact Block.ext h

namespace MessageHeader

theorem overwrites (h : MessageHeader) : Overwrites 24 .tooShort h.encode h.writeTo :=
  codec.overwrites MessageError.tooShort h

theorem recovers : Recovers 24 (.tooShort 24) encode readFrom :=
  codec.recovers fun b => by
    rw [readFrom, Codec.read?]
    cases h : Block.ofPrefix? 24 b <;> simp [codec, size, h]

theorem fields_encode (h : MessageHeader) (rest : Bytes) :
    (h.encode ++ rest).window 0 16 = h.recipient.encode ∧
      LittleEndian.decode ((h.encode ++ rest).window 16 8) = h.payloadLength.toNat := by
  simp [encode, decode_encode_mod]

/-- **A header is read just where its fields stand.** -/
theorem readFrom_eq_ok_iff {h : MessageHeader} {b : Bytes} :
    readFrom b = .ok h ↔ size ≤ b.length ∧ b.window 0 16 = h.recipient.encode ∧
      LittleEndian.decode (b.window 16 8) = h.payloadLength.toNat := by
  constructor
  · intro hread
    obtain ⟨rest, rfl⟩ := (recovers.read_iff b h).1 hread
    exact ⟨by simp, h.fields_encode rest⟩
  · rintro ⟨hlong, hrecipient, hlength⟩
    obtain ⟨h', hread, -⟩ := recovers.rewritten b hlong
    obtain ⟨rest, rfl⟩ := (recovers.read_iff b h').1 hread
    obtain ⟨hrecipient', hlength'⟩ := h'.fields_encode rest
    have hsame : h'.recipient = h.recipient :=
      Guid.encode_injective (hrecipient'.symm.trans hrecipient)
    have hcount : h'.payloadLength = h.payloadLength :=
      UInt64.toNat_inj.1 (hlength'.symm.trans hlength)
    cases h
    cases h'
    simp_all

end MessageHeader

namespace Announcement

/-- Why a payload of `length` bytes holds no announcement: the first number does not fit, or the
second does not. -/
def missing (length : Nat) : MessageError := .tooShort (if length < 8 then 8 else 16) length

theorem overwrites (a : Announcement) : Overwrites 16 .tooShort a.encode a.writeTo :=
  codec.overwrites MessageError.tooShort a

theorem recovers : Recovers 16 missing encode readFrom :=
  codec.recovers fun b => by
    rw [readFrom, Codec.read?]
    cases h : Block.ofPrefix? 16 b <;> simp [codec, size, missing, h]

theorem fields_encode (a : Announcement) (rest : Bytes) :
    LittleEndian.decode ((a.encode ++ rest).window 0 8) = a.count.toNat ∧
      LittleEndian.decode ((a.encode ++ rest).window 8 8) = a.length.toNat := by
  simp [encode, decode_encode_mod]

/-- **An announcement is read just where its two numbers stand.** -/
theorem readFrom_eq_ok_iff {a : Announcement} {b : Bytes} :
    readFrom b = .ok a ↔ size ≤ b.length ∧ LittleEndian.decode (b.window 0 8) = a.count.toNat ∧
      LittleEndian.decode (b.window 8 8) = a.length.toNat := by
  constructor
  · intro hread
    obtain ⟨rest, rfl⟩ := (recovers.read_iff b a).1 hread
    exact ⟨by simp, a.fields_encode rest⟩
  · rintro ⟨hlong, hcount, hlength⟩
    obtain ⟨a', hread, -⟩ := recovers.rewritten b hlong
    obtain ⟨rest, rfl⟩ := (recovers.read_iff b a').1 hread
    obtain ⟨hcount', hlength'⟩ := a'.fields_encode rest
    have hsame : a'.count = a.count := UInt64.toNat_inj.1 (hcount'.symm.trans hcount)
    have hbytes : a'.length = a.length := UInt64.toNat_inj.1 (hlength'.symm.trans hlength)
    cases a
    cases a'
    simp_all

/-! ## The descriptors of a payload -/

variable (a : Announcement)

/-- What follows the first 16 bytes, up to the announced length, are the descriptors. -/
theorem descriptors_of_append {front block : Bytes} (hfront : front.length = 16)
    (hblock : block.length = a.length.toNat) (hsize : 16 + a.length.toNat < 2 ^ 64)
    (rest : Bytes) :
    a.descriptors (front ++ block ++ rest) = .ok block := by
  have hfits : ¬UInt64.size ≤ size + a.length.toNat := Nat.not_le.2 hsize
  have hlong : ¬(front ++ block ++ rest).length < size + a.length.toNat := by
    simp only [List.length_append, hfront, hblock, size]; omega
  have hskip : front.length ≤ size := Nat.le_of_eq hfront
  rw [descriptors, if_neg hfits, if_neg hlong, List.append_assoc, Bytes.window_skip hskip, hfront,
    size, Nat.sub_self, Bytes.window_head hblock]

theorem descriptors_of_overflow {payload : Bytes} (h : 2 ^ 64 ≤ 16 + a.length.toNat) :
    a.descriptors payload = .error .lengthOverflow := if_pos h

theorem descriptors_of_short {payload : Bytes} (hsize : 16 + a.length.toNat < 2 ^ 64)
    (h : payload.length < 16 + a.length.toNat) :
    a.descriptors payload = .error (.tooShort (16 + a.length.toNat) payload.length) := by
  have hfits : ¬UInt64.size ≤ size + a.length.toNat := Nat.not_le.2 hsize
  rw [descriptors, if_neg hfits]
  exact if_pos h

end Announcement

/-! ## Sizes -/

theorem messageSize_of_lt {n : Nat} (h : n + 40 < 2 ^ 64) : messageSize n = .ok (40 + n) :=
  if_pos (by
    have hsize : UInt64.size = 2 ^ 64 := rfl
    simp only [MessageHeader.size, Announcement.size]; omega)

theorem messageSize_of_overflow {n : Nat} (h : 2 ^ 64 ≤ n + 40) :
    messageSize n = .error .lengthOverflow :=
  if_neg (by
    have hsize : UInt64.size = 2 ^ 64 := rfl
    simp only [MessageHeader.size, Announcement.size]; omega)

/-- The header for a buffer declares all that follows it. -/
theorem forBuffer_of_lt (recipient : Guid) {n : Nat} (h : 16 + n < 2 ^ 64) :
    MessageHeader.forBuffer recipient (40 + n) = .ok ⟨recipient, .ofNat (16 + n)⟩ := by
  have hsub : 40 + n - 24 = 16 + n := by omega
  rw [MessageHeader.forBuffer, MessageHeader.size, if_neg (by omega), hsub]
  exact if_pos h

/-- Descriptors behind their announcement, in a payload with room for just them, are given back. -/
theorem Announcement.descriptors_of_written (a : Announcement) {payload block : Bytes}
    (hroom : payload.length = 16 + block.length) (ha : a.length.toNat = block.length)
    (hsize : 16 + block.length < 2 ^ 64) :
    readFrom ((a.writeTo payload).buffer.overlayAt 16 block) = .ok a ∧
      a.descriptors ((a.writeTo payload).buffer.overlayAt 16 block) = .ok block := by
  have hfilled : (a.writeTo payload).buffer.overlayAt 16 block = a.encode ++ block := by
    have hrest : block.length = (payload.drop 16).length := by simp [hroom]
    have hover : (a.encode ++ payload.drop 16).overlayAt 16 block = _ :=
      Bytes.overlayAt_append_right a.overwrites.length_eq 0
    rw [a.overwrites.written payload (by omega)]
    rwa [Bytes.overlayAt_zero, Bytes.overlay_of_length_eq hrest] at hover
  have hcut := a.descriptors_of_append a.overwrites.length_eq ha.symm (by omega) []
  rw [List.append_nil] at hcut
  rw [hfilled]
  exact ⟨(recovers.read_iff _ a).2 (List.prefix_append _ _), hcut⟩

/-! ## Messages -/

/-- **The parts of a message are written, read and sized exactly.**  For all headers, announcements
and buffers:

* each is laid over exactly the bytes that it takes, and over no buffer that is too short, is read
  from any bytes of its size, and is written as the bytes that it was read from; it is read just
  where its fields stand at their offsets;
* an announcement stands for the bytes behind it up to its length; one whose end leaves 64 bits is
  refused, and so is one of more bytes than the payload holds;
* a size for `n` bytes of descriptors is computed unless it leaves 64 bits; in a buffer of this size
  the header declares the payload that there is, and `n` bytes behind an announcement of them are
  taken out unchanged. -/
theorem message_parts_exact :
    (∀ h : MessageHeader, Overwrites 24 .tooShort h.encode h.writeTo ∧
      ∀ b, 24 ≤ b.length → MessageHeader.readFrom (h.writeTo b).buffer = .ok h) ∧
    Recovers 24 (.tooShort 24) MessageHeader.encode MessageHeader.readFrom ∧
    (∀ h b, MessageHeader.readFrom b = .ok h ↔ 24 ≤ b.length ∧
      b.window 0 16 = h.recipient.encode ∧
      LittleEndian.decode (b.window 16 8) = h.payloadLength.toNat) ∧
    (∀ a : Announcement, Overwrites 16 .tooShort a.encode a.writeTo ∧
      ∀ b, 16 ≤ b.length → Announcement.readFrom (a.writeTo b).buffer = .ok a) ∧
    Recovers 16 Announcement.missing Announcement.encode Announcement.readFrom ∧
    (∀ a b, Announcement.readFrom b = .ok a ↔ 16 ≤ b.length ∧
      LittleEndian.decode (b.window 0 8) = a.count.toNat ∧
      LittleEndian.decode (b.window 8 8) = a.length.toNat) ∧
    (∀ (a : Announcement) (b : Bytes),
      (b.length < 2 ^ 64 → 16 + a.length.toNat ≤ b.length →
        a.descriptors b = .ok ((b.drop 16).take a.length.toNat)) ∧
      (2 ^ 64 ≤ 16 + a.length.toNat → a.descriptors b = .error .lengthOverflow) ∧
      (16 + a.length.toNat < 2 ^ 64 → b.length < 16 + a.length.toNat →
        a.descriptors b = .error (.tooShort (16 + a.length.toNat) b.length))) ∧
    (∀ n, (n + 40 < 2 ^ 64 → messageSize n = .ok (40 + n)) ∧
      (2 ^ 64 ≤ n + 40 → messageSize n = .error .lengthOverflow)) ∧
    (∀ recipient n total, messageSize n = .ok total → ∃ header,
      MessageHeader.forBuffer recipient total = .ok header ∧
      header.payloadLength.toNat = 16 + n ∧
      ∀ buffer, buffer.length = total →
        MessageHeader.readFrom (header.writeTo buffer).buffer = .ok header ∧
        ∃ payload, payload = (header.writeTo buffer).buffer.drop 24 ∧ payload.length = 16 + n ∧
          ∀ (a : Announcement) (block : Bytes), a.length.toNat = n → block.length = n →
            Announcement.readFrom ((a.writeTo payload).buffer.overlayAt 16 block) = .ok a ∧
            a.descriptors ((a.writeTo payload).buffer.overlayAt 16 block) = .ok block) := by
  have hheader (h : MessageHeader) (b : Bytes) (hb : 24 ≤ b.length) :
      MessageHeader.readFrom (h.writeTo b).buffer = .ok h := by
    rw [h.overwrites.written b hb, MessageHeader.recovers.read_iff]
    exact List.prefix_append _ _
  have hannounced (a : Announcement) (b : Bytes) (hb : 16 ≤ b.length) :
      Announcement.readFrom (a.writeTo b).buffer = .ok a := by
    rw [a.overwrites.written b hb, Announcement.recovers.read_iff]
    exact List.prefix_append _ _
  refine ⟨fun h => ⟨h.overwrites, hheader h⟩, MessageHeader.recovers,
    fun _ _ => MessageHeader.readFrom_eq_ok_iff, fun a => ⟨a.overwrites, hannounced a⟩,
    Announcement.recovers, fun _ _ => Announcement.readFrom_eq_ok_iff,
    fun a b => ⟨fun hb hlong => ?_, a.descriptors_of_overflow, a.descriptors_of_short⟩,
    fun n => ⟨messageSize_of_lt, messageSize_of_overflow⟩, fun recipient n total htotal => ?_⟩
  · have hfront : (b.take 16).length = 16 := by simp; omega
    have hblock : ((b.drop 16).take a.length.toNat).length = a.length.toNat := by simp; omega
    have hcut := a.descriptors_of_append hfront hblock (by omega)
      ((b.drop 16).drop a.length.toNat)
    rwa [List.append_assoc, List.take_append_drop, List.take_append_drop] at hcut
  · have hn : n + 40 < 2 ^ 64 := by
      by_cases h : n + 40 < 2 ^ 64
      · exact h
      · rw [messageSize_of_overflow (Nat.not_lt.1 h)] at htotal
        cases htotal
    rw [messageSize_of_lt hn, Except.ok.injEq] at htotal
    subst htotal
    have hsize : 16 + n < 2 ^ 64 := by omega
    let header : MessageHeader := ⟨recipient, .ofNat (16 + n)⟩
    refine ⟨header, forBuffer_of_lt recipient hsize, UInt64.toNat_ofNat_of_lt' hsize,
      fun buffer hbuffer => ⟨hheader header buffer (by omega), _, rfl, ?_⟩⟩
    have hpayload : ((header.writeTo buffer).buffer.drop 24).length = 16 + n := by
      rw [header.overwrites.written buffer (by omega),
        List.drop_left' header.overwrites.length_eq, List.length_drop, hbuffer]
      omega
    refine ⟨hpayload, fun a block ha hblock => ?_⟩
    subst hblock
    exact a.descriptors_of_written hpayload ha hsize

end Hest
