import Hest.Header.Identity

/-!
# Table headers

Every system description table begins with the same 36 bytes:

| offset | bytes | field |
|---|---|---|
| 0 | 4 | signature |
| 4 | 4 | length of the whole table |
| 8 | 1 | revision |
| 9 | 1 | checksum |
| 10 | 26 | identity of the maker |

The hardware error source table begins with a description header of signature `HEST`, followed by
the number of error source descriptors that the rest of the table holds.  `readFrom` refuses a
buffer that is too short, and then a table of any other signature.

`writeTo` lays a header over the start of a buffer, `readFrom` reads one from the start of a buffer;
both refuse a buffer of fewer bytes.  The checksum is the one byte that brings the sum of all bytes
of a table to zero modulo 256.
-/

namespace Hest

/-! ## Checksums -/

namespace Checksum

/-- The sum of the bytes modulo 256. -/
def sum (b : Bytes) : UInt8 := b.foldl (· + ·) 0

/-- The byte that, in the place of a zero byte of `b`, brings the sum to zero. -/
def complement (b : Bytes) : UInt8 := 0 - sum b

/-- Whether the bytes sum to zero. -/
def balanced (b : Bytes) : Bool := sum b == 0

theorem foldl_add (b : Bytes) (x : UInt8) : b.foldl (· + ·) x = x + b.foldl (· + ·) 0 := by
  induction b generalizing x with
  | nil => simp
  | cons y ys ih => rw [List.foldl_cons, List.foldl_cons, ih, ih (0 + y)]; simp [UInt8.add_assoc]

@[simp] theorem sum_nil : sum [] = 0 := rfl

@[simp] theorem sum_cons (x : UInt8) (b : Bytes) : sum (x :: b) = x + sum b := by
  rw [sum, sum, List.foldl_cons, foldl_add]; simp

@[simp] theorem sum_append (a b : Bytes) : sum (a ++ b) = sum a + sum b := by
  induction a with
  | nil => simp
  | cons x xs ih => simp [ih, UInt8.add_assoc]

end Checksum

/-! ## The header of every table -/

/-- The header that every description table begins with. -/
structure DescriptionHeader where
  signature : Block 4
  length : UInt32
  revision : UInt8
  checksum : UInt8
  identity : Identity
deriving DecidableEq

namespace DescriptionHeader

/-- The bytes of a header. -/
def size : Nat := 36

/-- Where the length of the table stands. -/
def lengthOffset : Nat := 4

/-- Where the checksum stands. -/
def checksumOffset : Nat := 9

/-- A header without a checksum yet. -/
def new (signature : Block 4) (revision : UInt8) (length : UInt32) (identity : Identity) :
    DescriptionHeader :=
  ⟨signature, length, revision, 0, identity⟩

/-- The bytes of a header. -/
def encode (h : DescriptionHeader) : Bytes :=
  h.signature.bytes ++ LittleEndian.encode 4 h.length.toNat ++ [h.revision, h.checksum] ++
    h.identity.encode

/-- The header that 36 bytes hold. -/
def decode (b : Block 36) : DescriptionHeader where
  signature := b.window 0 4 (by decide)
  length := .ofNat (LittleEndian.decode (b.window 4 4 (by decide)).bytes)
  revision := UInt8.ofNat (LittleEndian.decode (b.window 8 1 (by decide)).bytes)
  checksum := UInt8.ofNat (LittleEndian.decode (b.window 9 1 (by decide)).bytes)
  identity := Identity.decode (b.window 10 26 (by decide))

@[simp] theorem length_encode (h : DescriptionHeader) : h.encode.length = size := by
  simp [encode, size]

/-- Lays the header over the start of a buffer that can hold it. -/
def writeTo (h : DescriptionHeader) (buffer : Bytes) : InPlace LayoutError Unit :=
  if buffer.length < size then ⟨.error (.tooShort size buffer.length), buffer⟩
  else ⟨.ok (), buffer.overlay h.encode⟩

/-- The header at the start of a buffer. -/
def readFrom (buffer : Bytes) : Except LayoutError DescriptionHeader :=
  match Block.ofPrefix? 36 buffer with
  | some b => .ok (decode b)
  | none => .error (.tooShort size buffer.length)

end DescriptionHeader

/-! ## The header of the error source table -/

/-- The header of a hardware error source table. -/
structure ErrorSourceHeader where
  description : DescriptionHeader
  sourceCount : UInt32
deriving DecidableEq

namespace ErrorSourceHeader

/-- The bytes of a header. -/
def size : Nat := 40

/-- Where the number of descriptors stands. -/
def sourceCountOffset : Nat := 36

/-- The signature of an error source table, `HEST`. -/
def signature : Block 4 := ⟨[0x48, 0x45, 0x53, 0x54], rfl⟩

/-- The revision of the table's structure. -/
def revision : UInt8 := 1

/-- The header of a table without descriptors. -/
def new (identity : Identity) : ErrorSourceHeader :=
  ⟨.new signature revision 40 identity, 0⟩

/-- The bytes of a header. -/
def encode (h : ErrorSourceHeader) : Bytes :=
  h.description.encode ++ LittleEndian.encode 4 h.sourceCount.toNat

/-- The header that 40 bytes hold, whatever its signature. -/
def decode (b : Block 40) : ErrorSourceHeader where
  description := .decode (b.window 0 36 (by decide))
  sourceCount := .ofNat (LittleEndian.decode (b.window 36 4 (by decide)).bytes)

@[simp] theorem length_encode (h : ErrorSourceHeader) : h.encode.length = size := by
  simp [encode, size, DescriptionHeader.size]

/-- Lays the header over the start of a buffer that can hold it. -/
def writeTo (h : ErrorSourceHeader) (buffer : Bytes) : InPlace LayoutError Unit :=
  if buffer.length < size then ⟨.error (.tooShort size buffer.length), buffer⟩
  else ⟨.ok (), buffer.overlay h.encode⟩

/-- The header at the start of a buffer that holds an error source table. -/
def readFrom (buffer : Bytes) : Except LayoutError ErrorSourceHeader :=
  match Block.ofPrefix? 40 buffer with
  | none => .error (.tooShort size buffer.length)
  | some b =>
    let h := decode b
    if h.description.signature = signature then .ok h
    else .error (.badSignature h.description.signature)

end ErrorSourceHeader

end Hest
