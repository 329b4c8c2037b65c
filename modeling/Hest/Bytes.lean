import Hest.Text.Numeral

/-!
# Byte strings

Everything this library lays out is a `Bytes`, a list of bytes with offset 0 first.  A buffer that
is worked on in place keeps its length, whatever is written to it: `overlay` lays bytes over its
start and `overlayAt` from an offset on, and what would stick out past the end is dropped.
`InPlace` is the answer of a call that works on a buffer of its caller.

* A `Block n` is a byte string of exactly `n` bytes.  Identifiers, signatures and whole headers are
  blocks; a field of a block is a smaller block (`window`).
* `LittleEndian.encode width n` is `n` in `width` bytes, least significant byte first; higher bytes
  of `n` are dropped.  `LittleEndian.decode` reads any bytes back, and `encode_decode` says that it
  loses nothing.
* `utf8` is a text as it is stored.  `hex` writes two digits a byte, in the order of the bytes;
  `ofHex?` reads digits in either case.

`length_overlay` and `length_overlayAt` say that the length is kept; `overlay_of_le` says that
bytes that fit replace exactly that many bytes at the start.
-/

namespace Hest

/-- A byte string, offset 0 first. -/
abbrev Bytes := List UInt8

namespace Bytes

/-- The most bytes that one buffer can hold. -/
def capacity : Nat := 0x7fffffffffffffff

/-- A zeroed buffer of `n` bytes. -/
def zeros (n : Nat) : Bytes := List.replicate n 0

/-- The `n` bytes from `offset` on, fewer where the buffer ends sooner. -/
def window (b : Bytes) (offset n : Nat) : Bytes := (b.drop offset).take n

/-- Lays `top` over the start of `b`; what would stick out past the end is dropped. -/
def overlay (b top : Bytes) : Bytes := top.take b.length ++ b.drop top.length

/-- Lays `top` over `b` from `offset` on; what would stick out past the end is dropped. -/
def overlayAt (b : Bytes) (offset : Nat) (top : Bytes) : Bytes :=
  b.take offset ++ overlay (b.drop offset) top

@[simp] theorem length_zeros (n : Nat) : (zeros n).length = n := by simp [zeros]

@[simp] theorem length_overlay (b top : Bytes) : (overlay b top).length = b.length := by
  simp [overlay]; omega

@[simp] theorem length_overlayAt (b : Bytes) (offset : Nat) (top : Bytes) :
    (overlayAt b offset top).length = b.length := by
  simp [overlayAt]; omega

/-- Bytes that fit replace exactly as many bytes at the start. -/
theorem overlay_of_le {b top : Bytes} (h : top.length ≤ b.length) :
    overlay b top = top ++ b.drop top.length := by
  simp [overlay, List.take_of_length_le h]

@[simp] theorem overlay_nil (b : Bytes) : overlay b [] = b := by simp [overlay]

end Bytes

/-- What a call that works in place on a buffer of its caller answers, and the buffer afterwards. -/
structure InPlace (ε α : Type) where
  result : Except ε α
  buffer : Bytes

/-! ## Blocks of a fixed size -/

/-- Exactly `n` bytes. -/
structure Block (n : Nat) where
  bytes : Bytes
  length_eq : bytes.length = n
deriving DecidableEq

namespace Block

@[ext] theorem ext {n : Nat} {a b : Block n} (h : a.bytes = b.bytes) : a = b := by
  cases a; cases b; simp_all

attribute [simp] Block.length_eq

/-- The first `n` bytes of `b`, if it has that many. -/
def ofPrefix? (n : Nat) (b : Bytes) : Option (Block n) :=
  if h : n ≤ b.length then some ⟨b.take n, by simp [h]⟩ else none

/-- The `n` bytes of a block from `offset` on. -/
def window {m : Nat} (b : Block m) (offset n : Nat) (h : offset + n ≤ m) : Block n :=
  ⟨b.bytes.window offset n, by simp [Bytes.window]; omega⟩

/-- `n` copies of one byte. -/
def filled (n : Nat) (x : UInt8) : Block n := ⟨List.replicate n x, by simp⟩

end Block

/-! ## Little-endian integers -/

namespace LittleEndian

/-- The `width` low bytes of `n`, least significant first. -/
def encode : (width n : Nat) → Bytes
  | 0, _ => []
  | w + 1, n => UInt8.ofNat n :: encode w (n / 256)

/-- The number whose bytes are `b`, least significant first. -/
def decode : (b : Bytes) → Nat
  | [] => 0
  | x :: xs => x.toNat + 256 * decode xs

@[simp] theorem length_encode (w n : Nat) : (encode w n).length = w := by
  induction w generalizing n with
  | zero => rfl
  | succ w ih => simp [encode, ih]

/-- Bytes are what the number that they denote is written as. -/
theorem encode_decode (b : Bytes) : encode b.length (decode b) = b := by
  induction b with
  | nil => rfl
  | cons x xs ih =>
    have hx := x.toNat_lt
    have hdiv : (x.toNat + 256 * decode xs) / 256 = decode xs := by omega
    have hmod : UInt8.ofNat (x.toNat + 256 * decode xs) = x := by
      apply UInt8.toNat_inj.mp
      simp
    simp only [List.length_cons, encode, decode, hdiv, hmod, ih]

end LittleEndian

/-! ## Text -/

namespace Bytes

/-- The bytes of a text. -/
def utf8 (text : String) : Bytes := text.toUTF8.data.toList

/-- The bytes as hexadecimal digits, two a byte. -/
def hex (b : Bytes) : String :=
  b.foldl (fun s x =>
    (s.push (Text.digitChar (x.toNat / 16))).push (Text.digitChar (x.toNat % 16))) ""

/-- The bytes of hexadecimal digits in front of which stand the bytes of `before`, reversed. -/
def ofHexDigits? (before : Bytes) : List Char → Option Bytes
  | [] => some before.reverse
  | [_] => none
  | a :: b :: rest =>
    match Text.digit? 16 a, Text.digit? 16 b with
    | some high, some low => ofHexDigits? (UInt8.ofNat (high * 16 + low) :: before) rest
    | _, _ => none

/-- The bytes that hexadecimal digits stand for. -/
def ofHex? (s : String) : Option Bytes := ofHexDigits? [] s.toList

end Bytes

end Hest
