import Hest.Proofs.HeaderFormat
import Hest.Proofs.Identifiers
import Hest.Proofs.Runs

/-!
# The history of an identity

A run is any sequence of edits of one identity by a caller who goes on with what there was when an
edit is refused.  What each field holds after a run is told by the edits alone.

* `Edit.Sets` says what an edit puts into which field, and `Edit.Accepted` which edits put anything;
  neither depends on the identity.
* `edit_of_sets` and `edit_of_refused`: an edit puts its value into its field, or is refused.
* `Holds` says what edits leave in a field: what the last one put there that was accepted, or what
  was there in the beginning.  `has_perform` is the step for one more edit, `has_run` the run.
* `TakesText` says how an identifier is given as text.
* `history_of_identity` joins these, with the header that is made of the identity.
-/

namespace Hest.Identity

open Build (IsIdentifier spaced trimmed)
open Bytes (utf8)

/-! ## Fields -/

/-- A field of an identity. -/
inductive Field where
  | oemId
  | oemTableId
  | oemRevision
  | creatorId
  | creatorRevision

/-- What a field holds. -/
abbrev Field.Value : Field → Type
  | oemId => Block 6
  | oemTableId => Block 8
  | oemRevision | creatorId | creatorRevision => UInt32

/-- A field with a value for it. -/
structure Setting where
  field : Field
  value : field.Value

/-- The value of a field. -/
def get (i : Identity) : (f : Field) → f.Value
  | .oemId => i.oemId
  | .oemTableId => i.oemTableId
  | .oemRevision => i.oemRevision
  | .creatorId => i.creatorId
  | .creatorRevision => i.creatorRevision

/-- The identity with another value in one field. -/
def put (i : Identity) : Setting → Identity
  | ⟨.oemId, v⟩ => { i with oemId := v }
  | ⟨.oemTableId, v⟩ => { i with oemTableId := v }
  | ⟨.oemRevision, v⟩ => { i with oemRevision := v }
  | ⟨.creatorId, v⟩ => { i with creatorId := v }
  | ⟨.creatorRevision, v⟩ => { i with creatorRevision := v }

/-- An identity has a value in a field. -/
def Has (i : Identity) (x : Setting) : Prop := i.get x.field = x.value

@[simp] theorem get_put (i : Identity) (x : Setting) : (i.put x).get x.field = x.value := by
  obtain ⟨f, v⟩ := x
  cases f <;> rfl

/-- The other fields stay as they are. -/
theorem get_put_of_ne (i : Identity) {x : Setting} {f : Field} (h : f ≠ x.field) :
    (i.put x).get f = i.get f := by
  obtain ⟨g, v⟩ := x
  cases g <;> cases f <;> simp [put, get] at h ⊢

theorem has_put_iff {i : Identity} {x y : Setting} :
    (i.put x).Has y ↔ x = y ∨ (i.Has y ∧ x.field ≠ y.field) := by
  obtain ⟨f, v⟩ := x
  obtain ⟨g, w⟩ := y
  by_cases h : f = g
  · subst h
    have hvalue : (i.put ⟨f, v⟩).get f = v := get_put i ⟨f, v⟩
    simp [Has, hvalue]
  · have hother : (i.put ⟨f, v⟩).get g = i.get g := get_put_of_ne i (Ne.symm h)
    simp [Has, hother, h]

/-! ## One edit -/

namespace Edit

/-- The field that an edit is about. -/
def target : Edit → Field
  | oemId _ | oemIdText _ => .oemId
  | oemTableId _ | oemTableIdText _ => .oemTableId
  | oemRevision _ => .oemRevision
  | creatorId _ => .creatorId
  | creatorRevision _ => .creatorRevision

/-- What an edit puts into its field: the value that it gives, or the bytes of an identifier that it
gives as text. -/
inductive Sets : Edit → Setting → Prop where
  | oemId (b : Block 6) : Sets (.oemId b) ⟨.oemId, b⟩
  | oemTableId (b : Block 8) : Sets (.oemTableId b) ⟨.oemTableId, b⟩
  | oemRevision (n : UInt32) : Sets (.oemRevision n) ⟨.oemRevision, n⟩
  | creatorId (n : UInt32) : Sets (.creatorId n) ⟨.creatorId, n⟩
  | creatorRevision (n : UInt32) : Sets (.creatorRevision n) ⟨.creatorRevision, n⟩
  | oemIdText {text : String} {b : Block 6} : IsIdentifier 6 text → b.bytes = spaced 6 text →
      Sets (.oemIdText text) ⟨.oemId, b⟩
  | oemTableIdText {text : String} {b : Block 8} : IsIdentifier 8 text → b.bytes = spaced 8 text →
      Sets (.oemTableIdText text) ⟨.oemTableId, b⟩

/-- An edit is accepted unless it gives an identifier as a text that is none. -/
def Accepted : Edit → Prop
  | oemIdText text => IsIdentifier 6 text
  | oemTableIdText text => IsIdentifier 8 text
  | _ => True

theorem Sets.target_eq {e : Edit} {x : Setting} (h : e.Sets x) : e.target = x.field := by
  cases h <;> rfl

theorem Sets.accepted {e : Edit} {x : Setting} (h : e.Sets x) : e.Accepted := by
  cases h with
  | oemIdText h => exact h
  | oemTableIdText h => exact h
  | _ => exact trivial

theorem Sets.unique {e : Edit} {x y : Setting} (h : e.Sets x) (h' : e.Sets y) : x = y := by
  cases h with
  | oemIdText _ hb =>
    cases h' with
    | oemIdText _ hb' => rw [Block.ext (hb.trans hb'.symm)]
  | oemTableIdText _ hb =>
    cases h' with
    | oemTableIdText _ hb' => rw [Block.ext (hb.trans hb'.symm)]
  | _ =>
    cases h'
    rfl

theorem exists_sets {e : Edit} (h : e.Accepted) : ∃ x, e.Sets x := by
  cases e with
  | oemId b => exact ⟨_, .oemId b⟩
  | oemTableId b => exact ⟨_, .oemTableId b⟩
  | oemRevision n => exact ⟨_, .oemRevision n⟩
  | creatorId n => exact ⟨_, .creatorId n⟩
  | creatorRevision n => exact ⟨_, .creatorRevision n⟩
  | oemIdText text =>
    obtain ⟨b, -, hb⟩ := Build.padded_of_identifier h
    exact ⟨_, .oemIdText h hb⟩
  | oemTableIdText text =>
    obtain ⟨b, -, hb⟩ := Build.padded_of_identifier h
    exact ⟨_, .oemTableIdText h hb⟩

end Edit

/-- Makes an edit; one that is refused leaves the identity as it is. -/
def perform (e : Edit) : Act Identity (Except LayoutError Unit) := do
  match (← Act.get).edit e with
  | .ok i =>
    Act.set i
    return .ok ()
  | .error why => return .error why

section
variable {i : Identity} {e : Edit} {x : Setting}

/-- A text that is an identifier is taken as its bytes. -/
theorem padded_eq {n : Nat} {text : String} {b : Block n} (h : IsIdentifier n text)
    (hb : b.bytes = spaced n text) : padded n text = .ok b := by
  obtain ⟨b', hpadded, hb'⟩ := Build.padded_of_identifier h
  obtain rfl : b' = b := Block.ext (hb'.trans hb.symm)
  exact hpadded

/-- **An edit that is accepted puts its value into its field.** -/
theorem edit_of_sets (h : e.Sets x) (i : Identity) : i.edit e = .ok (i.put x) := by
  cases h with
  | oemIdText h hb =>
    rw [edit, padded_eq h hb]
    rfl
  | oemTableIdText h hb =>
    rw [edit, padded_eq h hb]
    rfl
  | _ => rfl

theorem edit_of_refused (h : ¬e.Accepted) (i : Identity) : ∃ why, i.edit e = .error why := by
  cases e with
  | oemIdText text =>
    rw [edit, Build.padded_of_not_identifier h]
    exact ⟨_, rfl⟩
  | oemTableIdText text =>
    rw [edit, Build.padded_of_not_identifier h]
    exact ⟨_, rfl⟩
  | _ => exact absurd trivial h

theorem perform_of_sets (h : e.Sets x) (i : Identity) :
    (perform e i).value = .ok () ∧ (perform e i).state = i.put x := by
  simp [perform, edit_of_sets h]

theorem perform_of_error {why : LayoutError} (h : i.edit e = .error why) :
    (perform e i).value = .error why ∧ (perform e i).state = i := by
  simp [perform, h]

/-- What a field holds after an edit is what the edit put there, or what it held before an edit that
is refused or about another field. -/
theorem has_perform : (perform e i).state.Has x ↔
    e.Sets x ∨ (i.Has x ∧ ¬(e.Accepted ∧ e.target = x.field)) := by
  by_cases h : e.Accepted
  · obtain ⟨y, hy⟩ := Edit.exists_sets h
    have hsets : e.Sets x ↔ y = x := ⟨hy.unique, fun heq => heq ▸ hy⟩
    rw [(perform_of_sets hy i).2, has_put_iff, ← hy.target_eq, hsets]
    simp [h]
  · obtain ⟨why, hwhy⟩ := edit_of_refused h i
    rw [(perform_of_error hwhy).2]
    have hnone : ¬e.Sets x := fun hs => h hs.accepted
    simp [h, hnone]

theorem value_perform (e : Edit) (i : Identity) : (perform e i).value = .ok () ↔ e.Accepted := by
  constructor
  · intro hvalue
    by_contra h
    obtain ⟨why, hwhy⟩ := edit_of_refused h i
    rw [(perform_of_error hwhy).1] at hvalue
    cases hvalue
  · intro h
    obtain ⟨x, hx⟩ := Edit.exists_sets h
    exact (perform_of_sets hx i).1

end

/-! ## Runs -/

/-- What edits leave in a field: what the last accepted edit of this field put there, or what was
there in the beginning if there is none. -/
def Holds (initial : Identity) (edits : List Edit) (x : Setting) : Prop :=
  Act.Latest (·.Sets x) (fun e => e.Accepted ∧ e.target = x.field) edits ∨
    ((∀ e ∈ edits, ¬(e.Accepted ∧ e.target = x.field)) ∧ initial.Has x)

theorem holds_nil {initial : Identity} {x : Setting} : Holds initial [] x ↔ initial.Has x := by
  simp [Holds, Act.Latest]

theorem holds_concat {initial : Identity} {edits : List Edit} {e : Edit} {x : Setting} :
    Holds initial (edits ++ [e]) x ↔
      e.Sets x ∨ (Holds initial edits x ∧ ¬(e.Accepted ∧ e.target = x.field)) := by
  rw [Holds, Holds, Act.latest_concat, List.forall_mem_append, List.forall_mem_singleton]
  tauto

/-- **What a field holds after a run is told by the edits.** -/
theorem has_run (initial : Identity) (edits : List Edit) (x : Setting) :
    (Act.forEach perform edits initial).state.Has x ↔ Holds initial edits x :=
  Act.invariant_forEach
    (P := fun edits (_ : List (Except LayoutError Unit)) i => ∀ x, Has i x ↔ Holds initial edits x)
    (fun e h x => by rw [has_perform, h x, holds_concat]) (fun _ => holds_nil.symm) edits x

/-! ## Identifiers given as text -/

/-- An identifier of `n` bytes is given as text.  A text of at most `n` characters, all of them
ASCII, is accepted, and its bytes and then spaces are stored; any other is refused and changes
nothing.  What is stored tells the text but for the spaces at its end. -/
structure TakesText (n : Nat) (edit : String → Edit) (part : Identity → Block n) : Prop where
  accepted : ∀ text, text.toList.length ≤ n → (∀ c ∈ text.toList, c.toNat < 128) → ∀ i,
    (perform (edit text) i).value = .ok () ∧ (part (perform (edit text) i).state).bytes =
      utf8 text ++ List.replicate (n - (utf8 text).length) 0x20
  refused : ∀ text, ¬(text.toList.length ≤ n ∧ ∀ c ∈ text.toList, c.toNat < 128) → ∀ i,
    (perform (edit text) i).value = .error (.invalidIdentifier n) ∧
      (perform (edit text) i).state = i
  same_iff : ∀ text text' i i', (perform (edit text) i).value = .ok () →
    (perform (edit text') i').value = .ok () →
    (part (perform (edit text) i).state = part (perform (edit text') i').state ↔
      trimmed text = trimmed text')

theorem takesText {n : Nat} {change : String → Edit} {part : Identity → Block n}
    (store : Identity → Block n → Identity)
    (hchange : ∀ i text, i.edit (change text) = (padded n text).map (store i))
    (hpart : ∀ i b, part (store i b) = b) : TakesText n change part := by
  have htaken {text : String} (h : IsIdentifier n text) (i : Identity) :
      (perform (change text) i).value = .ok () ∧
        (part (perform (change text) i).state).bytes = spaced n text := by
    obtain ⟨b, hb, hbytes⟩ := Build.padded_of_identifier h
    have hedit : i.edit (change text) = .ok (store i b) := by rw [hchange, hb]; rfl
    simp [perform, hedit, hpart, hbytes]
  have hrefused {text : String} (h : ¬IsIdentifier n text) (i : Identity) :
      (perform (change text) i).value = .error (.invalidIdentifier n) ∧
        (perform (change text) i).state = i :=
    perform_of_error (by rw [hchange, Build.padded_of_not_identifier h]; rfl)
  have hidentifier {text : String} {i : Identity} (h : (perform (change text) i).value = .ok ()) :
      IsIdentifier n text := by
    by_contra hnone
    rw [(hrefused hnone i).1] at h
    cases h
  constructor
  · intro text hlength hascii i
    have h : IsIdentifier n text := ⟨hlength, hascii⟩
    rw [← Build.spaced_of_identifier h]
    exact htaken h i
  · intro text h i
    exact hrefused h i
  · intro text text' i i' hok hok'
    have h := hidentifier hok
    have h' := hidentifier hok'
    rw [Block.ext_iff, (htaken h i).2, (htaken h' i').2, Build.spaced_eq_iff h h']

/-! ## The history -/

/-- **The history of an identity.**  In every run of edits, from any identity on:

* each of the five fields holds what the last accepted edit of this field put there, or what it held
  in the beginning if there is none;
* an edit is accepted unless it gives an identifier as a text that is none, whatever the identity;
* both identifiers can be given as text, of 6 and of 8 bytes, and to count the bytes of a text and
  see that they are ASCII tells the same texts to be identifiers as to look at its characters;
* the header that is made of the identity in the end has its five values, each at its offset. -/
theorem history_of_identity (initial : Identity) (edits : List Edit) :
    let final := (Act.forEach perform edits initial).state
    (∀ x, final.Has x ↔ Holds initial edits x) ∧
    (∀ e i, (perform e i).value = .ok () ↔ e.Accepted) ∧
    TakesText 6 .oemIdText oemId ∧ TakesText 8 .oemTableIdText oemTableId ∧
    (∀ n text, (text.toList.length ≤ n ∧ ∀ c ∈ text.toList, c.toNat < 128) ↔
      (utf8 text).length ≤ n ∧ ∀ x ∈ utf8 text, x.toNat < 128) ∧
    (∀ signature revision length rest,
      let h := DescriptionHeader.new signature revision length final
      (∀ x, h.identity.Has x ↔ Holds initial edits x) ∧ h.StandsIn (h.encode ++ rest)) := by
  intro final
  have hfinal : ∀ x, final.Has x ↔ Holds initial edits x := has_run initial edits
  refine ⟨hfinal, value_perform, ?_, ?_, ?_, ?_⟩
  · exact takesText (fun i b => { i with oemId := b }) (fun _ _ => rfl) fun _ _ => rfl
  · exact takesText (fun i b => { i with oemTableId := b }) (fun _ _ => rfl) fun _ _ => rfl
  · intro n text
    exact Build.isIdentifier_iff_utf8
  · intro signature revision length rest
    exact ⟨hfinal, DescriptionHeader.standsIn_encode _ rest⟩

end Hest.Identity
