import Hest.Bytes

/-!
# Table identity

Who made a table: two identifiers, padded with spaces and not terminated, the revision of the
maker, and the identifier and revision of the tool that created the table.

An identity is changed by edits.  An edit that gives an identifier as text is refused, and changes
nothing, unless the text is ASCII and fits (`isOk_padded_iff`).

`LayoutError` says why a table header cannot be written, read or given an identifier.
-/

namespace Hest

/-! ## Errors -/

/-- Why laying out or reading a header fails. -/
inductive LayoutError where
  /-- The buffer ends before the header does. -/
  | tooShort (needed actual : Nat)
  /-- The table is of another kind. -/
  | badSignature (found : Block 4)
  /-- The text is not ASCII or does not fit the identifier. -/
  | invalidIdentifier (most : Nat)
deriving DecidableEq

/-- The wording of an error. -/
def LayoutError.message : LayoutError → String
  | tooShort needed actual => s!"Buffer too short: needed {needed} bytes, got {actual}"
  | badSignature found =>
    "Unexpected table signature [" ++
      ", ".intercalate (found.bytes.map fun x => toString x.toNat) ++ "]"
  | invalidIdentifier most => s!"Identifier must be ASCII and at most {most} bytes long"

/-! ## Identities -/

/-- The identity fields of a table header. -/
structure Identity where
  oemId : Block 6
  oemTableId : Block 8
  oemRevision : UInt32
  creatorId : UInt32
  creatorRevision : UInt32
deriving DecidableEq

namespace Identity

open Bytes (utf8)

/-- The identity of a table whose maker names none. -/
def standard : Identity where
  oemId := ⟨[0x49, 0x4e, 0x54, 0x45, 0x4c, 0x20], rfl⟩
  oemTableId := ⟨[0x45, 0x44, 0x4b, 0x32, 0x20, 0x20, 0x20, 0x20], rfl⟩
  oemRevision := 2
  creatorId := 0x20202020
  creatorRevision := 0x01000013

instance : Inhabited Identity := ⟨standard⟩

/-- A text as identifier of `n` bytes: its bytes, which are to be ASCII, then spaces. -/
def padded (n : Nat) (text : String) : Except LayoutError (Block n) :=
  if h : (utf8 text).length ≤ n ∧ (utf8 text).all (·.toNat < 128) then
    .ok ⟨utf8 text ++ List.replicate (n - (utf8 text).length) 0x20, by simp; omega⟩
  else .error (.invalidIdentifier n)

/-- A text is an identifier of `n` bytes just when its bytes are ASCII and no more. -/
theorem isOk_padded_iff (n : Nat) (text : String) :
    (padded n text).isOk ↔ (utf8 text).length ≤ n ∧ ∀ x ∈ utf8 text, x.toNat < 128 := by
  unfold padded
  split <;> rename_i h <;> simpa [Except.isOk, Except.toBool] using h

/-- One change of an identity. -/
inductive Edit where
  | oemId (value : Block 6)
  | oemTableId (value : Block 8)
  | oemRevision (value : UInt32)
  | creatorId (value : UInt32)
  | creatorRevision (value : UInt32)
  | oemIdText (text : String)
  | oemTableIdText (text : String)

/-- The identity after an edit. -/
def edit (identity : Identity) : Edit → Except LayoutError Identity
  | .oemId value => .ok { identity with oemId := value }
  | .oemTableId value => .ok { identity with oemTableId := value }
  | .oemRevision value => .ok { identity with oemRevision := value }
  | .creatorId value => .ok { identity with creatorId := value }
  | .creatorRevision value => .ok { identity with creatorRevision := value }
  | .oemIdText text => (padded 6 text).map fun value => { identity with oemId := value }
  | .oemTableIdText text => (padded 8 text).map fun value => { identity with oemTableId := value }

/-- The identity after all edits, or the first refusal. -/
def editAll (identity : Identity) (edits : List Edit) : Except LayoutError Identity :=
  edits.foldlM edit identity

/-- The 26 bytes of an identity, as they stand in a header. -/
def encode (identity : Identity) : Bytes :=
  identity.oemId.bytes ++ identity.oemTableId.bytes ++
    LittleEndian.encode 4 identity.oemRevision.toNat ++
    LittleEndian.encode 4 identity.creatorId.toNat ++
    LittleEndian.encode 4 identity.creatorRevision.toNat

/-- The identity that 26 bytes hold. -/
def decode (b : Block 26) : Identity where
  oemId := b.window 0 6 (by decide)
  oemTableId := b.window 6 8 (by decide)
  oemRevision := .ofNat (LittleEndian.decode (b.window 14 4 (by decide)).bytes)
  creatorId := .ofNat (LittleEndian.decode (b.window 18 4 (by decide)).bytes)
  creatorRevision := .ofNat (LittleEndian.decode (b.window 22 4 (by decide)).bytes)

@[simp] theorem length_encode (identity : Identity) : identity.encode.length = 26 := by
  simp [encode]

end Identity

end Hest
