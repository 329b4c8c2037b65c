import Hest.Bytes

/-!
# GUIDs

A GUID has three integer groups and eight bytes.  Stored, the integers are little-endian; written
as text, every group reads from its most significant digit, so the two orders differ in the first
eight bytes.
-/

namespace Hest

/-- A globally unique identifier. -/
structure Guid where
  first : UInt32
  second : UInt16
  third : UInt16
  rest : Block 8
deriving DecidableEq

namespace Guid

/-- The sixteen stored bytes. -/
def encode (g : Guid) : Bytes :=
  LittleEndian.encode 4 g.first.toNat ++ LittleEndian.encode 2 g.second.toNat ++
    LittleEndian.encode 2 g.third.toNat ++ g.rest.bytes

/-- The GUID that sixteen stored bytes hold. -/
def decode (b : Block 16) : Guid where
  first := .ofNat (LittleEndian.decode (b.window 0 4 (by decide)).bytes)
  second := .ofNat (LittleEndian.decode (b.window 4 2 (by decide)).bytes)
  third := .ofNat (LittleEndian.decode (b.window 6 2 (by decide)).bytes)
  rest := b.window 8 8 (by decide)

@[simp] theorem length_encode (g : Guid) : g.encode.length = 16 := by simp [encode]

/-- The text form, five groups of lower-case digits. -/
def text (g : Guid) : String :=
  let integer (width n : Nat) := Bytes.hex (LittleEndian.encode width n).reverse
  "-".intercalate [integer 4 g.first.toNat, integer 2 g.second.toNat, integer 2 g.third.toNat,
    Bytes.hex (g.rest.bytes.take 2), Bytes.hex (g.rest.bytes.drop 2)]

/-- The GUID of a text of five groups of digits, of 4, 2, 2, 2 and 6 bytes. -/
def ofText? (s : String) : Option Guid := do
  match ← (s.splitOn "-").mapM Bytes.ofHex? with
  | [a, b, c, d, e] =>
    let stored ← Block.ofPrefix? 16 (a.reverse ++ b.reverse ++ c.reverse ++ d ++ e)
    if [a, b, c, d, e].map List.length = [4, 2, 2, 2, 6] then some (decode stored) else none
  | _ => none

end Guid

end Hest
