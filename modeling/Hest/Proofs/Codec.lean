import Hest.Proofs.Layout

/-!
# Layouts of a fixed size

The headers of tables and messages are layouts of a fixed size: each value is written in one way,
and any bytes of that size are a value's.  A `Codec` is such a layout with its two laws, and what
holds of all of them at the start of a longer buffer is shown here once.

* `Codec.overwrites`: a writer lays a value over exactly the bytes that it takes, and a buffer that
  is too short for it stays as it is (`Overwrites`).
* `Codec.recovers`: a reader gives a value just where its encoding stands, so reading gives back
  what was written, and writing gives back what was read (`Recovers`).
-/

namespace Hest

/-- A layout of a fixed size. -/
structure Codec (α : Type) where
  size : Nat
  encode : α → Bytes
  decode : Block size → α
  length_encode : ∀ a, (encode a).length = size
  /-- What was written is read back. -/
  decode_encode : ∀ a, decode ⟨encode a, length_encode a⟩ = a
  /-- Any bytes of this size were written so. -/
  encode_decode : ∀ b, encode (decode b) = b.bytes

/-- `write` lays the `size` bytes of `encoding` over the start of every buffer that can hold them,
and over nothing else; a buffer that cannot is refused and stays as it is. -/
structure Overwrites {ε : Type} (size : Nat) (tooShort : Nat → Nat → ε) (encoding : Bytes)
    (write : Bytes → InPlace ε Unit) : Prop where
  length_eq : encoding.length = size
  written : ∀ b, size ≤ b.length → write b = ⟨.ok (), encoding ++ b.drop size⟩
  refused : ∀ b, b.length < size → write b = ⟨.error (tooShort size b.length), b⟩

/-- `read` gives exactly the values whose encoding, of `size` bytes, a buffer begins with, and every
buffer that is long enough begins with one; the others are refused with `error` of their length. -/
structure Recovers {α ε : Type} (size : Nat) (error : Nat → ε) (encode : α → Bytes)
    (read : Bytes → Except ε α) : Prop where
  read_iff : ∀ b a, read b = .ok a ↔ encode a <+: b
  rewritten : ∀ b, size ≤ b.length → ∃ a, read b = .ok a ∧ encode a = b.take size
  refused : ∀ b, b.length < size → read b = .error (error b.length)

namespace Codec

variable {α ε : Type} (c : Codec α)

/-! ## Writing -/

/-- Lays a value over the start of a buffer that can hold it. -/
def writeTo (tooShort : Nat → Nat → ε) (a : α) (b : Bytes) : InPlace ε Unit :=
  if b.length < c.size then ⟨.error (tooShort c.size b.length), b⟩
  else ⟨.ok (), b.overlay (c.encode a)⟩

theorem overwrites (tooShort : Nat → Nat → ε) (a : α) :
    Overwrites c.size tooShort (c.encode a) (c.writeTo tooShort a) where
  length_eq := c.length_encode a
  written b h := by
    have hfits : (c.encode a).length ≤ b.length := by rwa [c.length_encode]
    rw [writeTo, if_neg (Nat.not_lt.2 h), Bytes.overlay_of_le hfits, c.length_encode]
  refused b h := if_pos h

/-! ## Reading -/

/-- The value at the start of a buffer that holds one. -/
def read? (b : Bytes) : Option α := (Block.ofPrefix? c.size b).map c.decode

theorem read?_of_lt {b : Bytes} (h : b.length < c.size) : c.read? b = none := by
  simp [read?, Block.ofPrefix?, Nat.not_le.2 h]

theorem read?_of_le {b : Bytes} (h : c.size ≤ b.length) :
    ∃ a, c.read? b = some a ∧ c.encode a = b.take c.size := by
  obtain ⟨x, hx, hbytes⟩ := Block.ofPrefix?_of_le h
  exact ⟨c.decode x, by rw [read?, hx, Option.map_some], by rw [c.encode_decode, hbytes]⟩

theorem read?_encode_append (a : α) (rest : Bytes) : c.read? (c.encode a ++ rest) = some a := by
  have hblock : Block.ofPrefix? c.size (c.encode a ++ rest) =
      some ⟨c.encode a, c.length_encode a⟩ :=
    Block.ofPrefix?_append ⟨c.encode a, c.length_encode a⟩ rest
  rw [read?, hblock, Option.map_some, c.decode_encode]

/-- **A value is read just where its encoding stands.** -/
theorem read?_eq_some_iff {a : α} {b : Bytes} : c.read? b = some a ↔ c.encode a <+: b := by
  constructor
  · intro h
    rcases Nat.lt_or_ge b.length c.size with hlt | hle
    · rw [c.read?_of_lt hlt] at h
      cases h
    · obtain ⟨a', ha', hbytes⟩ := c.read?_of_le hle
      obtain rfl : a' = a := Option.some.inj (ha'.symm.trans h)
      rw [hbytes]
      exact List.take_prefix _ _
  · rintro ⟨rest, rfl⟩
    exact c.read?_encode_append a rest

theorem recovers {read : Bytes → Except ε α} {error : Nat → ε}
    (hread : ∀ b, read b = (c.read? b).elim (.error (error b.length)) .ok) :
    Recovers c.size error c.encode read where
  read_iff b a := by
    rw [hread, ← c.read?_eq_some_iff]
    cases c.read? b <;> simp
  rewritten b h := by
    obtain ⟨a, ha, hbytes⟩ := c.read?_of_le h
    exact ⟨a, by rw [hread, ha, Option.elim_some], hbytes⟩
  refused b h := by rw [hread, c.read?_of_lt h, Option.elim_none]

end Codec

/-! ## The headers -/

/-- The layout of description headers. -/
def DescriptionHeader.codec : Codec DescriptionHeader :=
  ⟨size, encode, decode, length_encode, decode_encode, encode_decode⟩

/-- The layout of error source headers, whatever their signature. -/
def ErrorSourceHeader.codec : Codec ErrorSourceHeader :=
  ⟨size, encode, decode, length_encode, decode_encode, encode_decode⟩

/-- The layout of message headers. -/
def MessageHeader.codec : Codec MessageHeader :=
  ⟨size, encode, decode, length_encode, decode_encode, encode_decode⟩

/-- The layout of announcements. -/
def Announcement.codec : Codec Announcement :=
  ⟨size, encode, decode, length_encode, decode_encode, encode_decode⟩

end Hest
