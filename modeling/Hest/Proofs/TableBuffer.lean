import Hest.Proofs.Runs
import Hest.Proofs.TableDecision
import Hest.Table.Buffer

/-!
# A table and its buffer

A table in a buffer answers and reports what a `Table` does, and holds at every moment the bytes
that the `Table` makes of its descriptors.

* `Table.inBuffer` is the buffer of a table; what the one shows, the other shows.
* `patch_bytes`: numbers that are written over in the header make the header of the longer table.
* `stamp_bytes` and `blank_stamped`: a checksum that is stored in its place makes the bytes that are
  offered, and a table that loses it again is as it was.
* `simulates_append` and `simulates_install` say so of each action, `simulates_perform` of a call
  and `simulates_run` of any sequence of calls.
* `after` is the buffer that a history leads to, and `buffer_of_run` joins these.
-/

namespace Hest

open Table (Call Event additions publications assembled usable Publisher)

/-! ## The buffer of a table -/

/-- How far the buffer of a table is. -/
def Phase.inBuffer (identity : Identity) : Phase → BufferState
  | .empty => .empty
  | .building c => .building (c.bytes identity)
  | .installed => .installed

/-- A table as it stands in a buffer. -/
def Table.inBuffer (t : Table) : TableBuffer := ⟨t.identity, t.phase.inBuffer t.identity⟩

namespace TableBuffer

variable {ω : Type}

section
variable (t : Table)

@[simp] theorem identity_inBuffer : t.inBuffer.identity = t.identity := rfl

@[simp] theorem bytes_inBuffer : t.inBuffer.bytes = t.bytes := by
  obtain ⟨identity, phase⟩ := t
  cases phase <;> rfl

@[simp] theorem length_inBuffer : t.inBuffer.length = t.length := by
  rw [length, bytes_inBuffer, Table.length]

@[simp] theorem isBuilt_inBuffer : t.inBuffer.isBuilt = t.isBuilt := by
  obtain ⟨identity, phase⟩ := t
  cases phase <;> rfl

@[simp] theorem isInstalled_inBuffer : t.inBuffer.isInstalled = t.isInstalled := by
  obtain ⟨identity, phase⟩ := t
  cases phase <;> rfl

@[simp] theorem baseLength_inBuffer : t.inBuffer.baseLength = t.baseLength := by
  rw [baseLength, isBuilt_inBuffer, length_inBuffer, Table.baseLength]

/-- The number of descriptors is read from the buffer as it was written there. -/
@[simp] theorem sourceCount_inBuffer : t.inBuffer.sourceCount = t.sourceCount := by
  rw [sourceCount, bytes_inBuffer]
  obtain ⟨identity, phase⟩ := t
  cases phase with
  | empty | installed => rfl
  | building c =>
    have hread : ErrorSourceHeader.readFrom (c.bytes identity) = .ok (c.header identity) :=
      ErrorSourceHeader.readFrom_encode rfl _
    simp only [Table.bytes, hread]
    rfl

end

/-! ## Appending -/

/-- **A block that is appended in place** makes the table with the longer descriptors: the block
comes behind the bytes, and the two numbers in the header are written over. -/
theorem patch_bytes {c grown : Contents} {block : Bytes} {length : UInt32}
    (hd : grown.descriptors = c.descriptors ++ block)
    (hl : length.toNat = 40 + grown.descriptors.length) (identity : Identity) :
    patch (patch (c.bytes identity ++ block) DescriptionHeader.lengthOffset length)
      ErrorSourceHeader.sourceCountOffset grown.count = grown.bytes identity := by
  have hlength : length = .ofNat (40 + grown.descriptors.length) := by
    rw [← hl, UInt32.ofNat_toNat]
  have hheader : (grown.header identity).encode =
      patch (patch (c.header identity).encode DescriptionHeader.lengthOffset length)
        ErrorSourceHeader.sourceCountOffset grown.count := by
    rw [patch, patch, ErrorSourceHeader.overlayAt_fields, hlength]
    rfl
  -- both numbers stand in the header, so what is behind it is left alone
  have hbehind {header rest : Bytes} {offset : Nat} {n : UInt32} (h : offset + 4 ≤ header.length) :
      patch (header ++ rest) offset n = patch header offset n ++ rest :=
    Bytes.overlayAt_append_left (by rwa [LittleEndian.length_encode])
  rw [Contents.bytes, Contents.bytes, hheader, hd, List.append_assoc, hbehind, hbehind]
  · simp [patch, ErrorSourceHeader.size, ErrorSourceHeader.sourceCountOffset]
  · simp [ErrorSourceHeader.size, DescriptionHeader.lengthOffset]

/-- What is reserved for a table that can grow are its bytes, or a fresh header. -/
theorem reserve_inBuffer {t : Table} (hi : t.isInstalled = false) : ∃ c : Contents,
    c.descriptors = t.descriptors ∧ reserve t.inBuffer = ⟨.ok (c.bytes t.identity),
      ⟨t.identity, .building (c.bytes t.identity)⟩,
      if t.isBuilt then [] else [⟨.debug, .table, "Created HEST header"⟩]⟩ := by
  obtain ⟨identity, phase⟩ := t
  cases phase with
  | installed => cases hi
  | empty =>
    let fresh : Contents := ⟨[], 0, by decide⟩
    have hbytes : fresh.bytes identity = (ErrorSourceHeader.new identity).encode :=
      List.append_nil _
    refine ⟨fresh, rfl, ?_⟩
    rw [hbytes]
    rfl
  | building c => exact ⟨c, rfl, rfl⟩

/-- A block that the table can take is appended to both. -/
theorem append_of_extend {t longer : Table} {block : Bytes} {length count : Nat}
    (hx : t.extend block length count = .ok longer) :
    append block length count t.inBuffer =
      ⟨(Table.append block length count t).value,
        (Table.append block length count t).state.inBuffer,
        (Table.append block length count t).log⟩ := by
  obtain ⟨hu, hi, grown, hlonger, hdescriptors, hsum⟩ := Table.extend_eq_ok_iff.1 hx
  obtain ⟨c, hc, hreserve⟩ := reserve_inBuffer hi
  have hgrown := Table.length_grown hi (Table.length_le_of_usable hu)
  have hfits : t.baseLength + length < UInt32.size := by
    rw [← hgrown, ← hdescriptors]
    exact grown.length_lt
  have hfew : t.sourceCount.toNat + count < UInt32.size := hsum ▸ grown.count.toNat_lt
  have hlong : ¬UInt32.size ≤ t.baseLength + length := Nat.not_le.2 hfits
  have hmany : ¬(UInt32.size ≤ count ∨ UInt32.size ≤ t.sourceCount.toNat + count) := by omega
  have hlength : longer.length = 40 + grown.descriptors.length := by
    rw [hlonger]
    exact grown.length_bytes t.identity
  have hcount : longer.sourceCount = grown.count := by rw [hlonger]; rfl
  have hbuffer : longer.inBuffer = ⟨t.identity, .building (grown.bytes t.identity)⟩ := by
    rw [hlonger]; rfl
  -- the numbers that are written are those of the longer table
  have hlength' : (UInt32.ofNat (t.baseLength + length)).toNat =
      40 + grown.descriptors.length := by
    rw [UInt32.toNat_ofNat_of_lt' hfits, hdescriptors, hgrown]
  have hcount' : UInt32.ofNat (t.sourceCount.toNat + count) = grown.count := by
    rw [← hsum, UInt32.ofNat_toNat]
  have hpatch := patch_bytes (hc ▸ hdescriptors) hlength' t.identity
  cases hb : t.isBuilt <;>
    simp [append, Table.append, Bind.bind, hu, hi, hlong, hmany, hx, hreserve, hb, hlength,
      hcount, hpatch, hlength', hcount', hbuffer, -UInt32.ofNat_add, -UInt32.toNat_ofNat']

/-- **Appending to the buffer of a table is appending to the table.** -/
theorem simulates_append (block : Bytes) (length count : Nat) :
    Act.Simulates Table.inBuffer (append block length count)
      (Table.append block length count) := by
  intro t
  cases hu : usable block length with
  | false =>
    have hx := Table.extend_of_unusable (t := t) count (ne_true_of_eq_false hu)
    simp [append, Table.append, Bind.bind, hu, hx]
  | true =>
  cases hi : t.isInstalled with
  | true =>
    have hx := Table.extend_of_installed count hu hi
    simp [append, Table.append, Bind.bind, hu, hi, hx]
  | false =>
  have hl := Table.length_le_of_usable hu
  by_cases hlong : UInt32.size ≤ t.baseLength + length
  · have hx := Table.extend_of_long hu hi hl count hlong
    simp [append, Table.append, Bind.bind, hu, hi, hlong, hx]
  have hfits : t.baseLength + length < UInt32.size := Nat.lt_of_not_le hlong
  by_cases hmany : UInt32.size ≤ count ∨ UInt32.size ≤ t.sourceCount.toNat + count
  · have hsum : UInt32.size ≤ t.sourceCount.toNat + count := by omega
    have hx := Table.extend_of_many hu hi hl hfits hsum
    simp [append, Table.append, Bind.bind, hu, hi, hlong, hmany, hx]
  · have hfew : t.sourceCount.toNat + count < UInt32.size := by omega
    obtain ⟨grown, hx⟩ := Table.extend_of_fits hu hi hl hfits hfew
    exact append_of_extend hx

/-! ## Publishing -/

section
variable (c : Contents) (identity : Identity)

theorem blank_bytes : (c.bytes identity).set DescriptionHeader.checksumOffset 0 =
    c.bytes identity := by
  obtain ⟨hi, hzero⟩ := List.getElem?_eq_some_iff.1 (c.getElem?_checksum identity)
  have hself := List.set_getElem_self hi
  rwa [hzero] at hself

theorem stamp_bytes : stamp (c.bytes identity) = c.stamped identity := by
  rw [stamp, blank_bytes, c.stamped_eq_set]

/-- Without its checksum, a table is as it was before. -/
theorem blank_stamped : (c.stamped identity).set DescriptionHeader.checksumOffset 0 =
    c.bytes identity := by
  rw [c.stamped_eq_set, List.set_set, blank_bytes]

end

/-- **Publishing the buffer of a table is publishing the table.** -/
theorem simulates_install (publish : Publisher ω) :
    Act.Simulates (Prod.map Table.inBuffer id) (install publish) (Table.install publish) := by
  rintro ⟨⟨identity, phase⟩, w⟩
  cases phase with
  | empty => rfl
  | installed => rfl
  | building c =>
    have hlength : (c.stamped identity).length = (c.bytes identity).length := by
      rw [c.stamped_eq_set, List.length_set]
    cases hverdict : (publish (c.stamped identity) w).value with
    | ok key =>
      simp [install, Table.install, Table.inBuffer, Phase.inBuffer, Bind.bind, Act.onFirst,
        Act.onSecond, Act.focus, stamp_bytes, hverdict, hlength, Table.length, Table.bytes]
    | error status =>
      simp [install, Table.install, Table.inBuffer, Phase.inBuffer, Bind.bind, Act.onFirst,
        Act.onSecond, Act.focus, stamp_bytes, hverdict, blank_stamped]

/-! ## Runs -/

/-- Makes a call on a buffer and gives what came of it. -/
def perform : Call ω → Act (TableBuffer × ω) Event
  | .append block length count => do
    return .append block length count (← Act.onFirst (append block length count))
  | .install publish => do
    let (result, offers) ← Act.withLocal [] (Act.focus (fun s => (s.1.1, s.1.2, s.2))
      (fun s _ => ((s.1, s.2.1), s.2.2)) (install (Table.watched publish)))
    return .install offers result

/-- **A call on the buffer of a table is the call on the table.** -/
theorem simulates_perform (call : Call ω) :
    Act.Simulates (Prod.map Table.inBuffer id) (perform call) (Table.perform call) := by
  have hc := Act.Compatible.simulates (Prod.map Table.inBuffer (id : ω → ω))
  cases call with
  | append block length count =>
    exact hc.bind (simulates_append block length count).onFirst fun _ => hc.pure _
  | install publish =>
    refine hc.bind ?_ fun _ => hc.pure _
    rintro ⟨t, w⟩
    have h := simulates_install (Table.watched publish) (t, w, [])
    simp only [Prod.map_apply, id_eq] at h
    simp only [Act.withLocal, Act.focus, Prod.map_apply, id_eq, h]
    rfl

/-- **A run on the buffer of a table is the run on the table.** -/
theorem simulates_run (calls : List (Call ω)) :
    Act.Simulates (Prod.map Table.inBuffer id) (Act.forEach perform calls)
      (Table.performAll calls) := by
  have hc := Act.Compatible.simulates (Prod.map Table.inBuffer (id : ω → ω))
  induction calls with
  | nil => exact hc.pure []
  | cons call calls ih =>
    exact hc.bind (simulates_perform call) fun _ => hc.bind ih fun _ => hc.pure _

/-- The buffer that a history leads to: none without an appended block and none after the table was
taken, else the table that the appended blocks make. -/
def after (identity : Identity) (history : List Event) : BufferState :=
  if publications history ≠ [] then .installed
  else if additions history = [] then .empty
  else .building (assembled identity (additions history))

theorem inBuffer_of_kept {identity : Identity} {history : List Event} {t : Table}
    (hk : Table.Kept identity history t) : t.inBuffer = ⟨identity, after identity history⟩ := by
  obtain ⟨hidentity, hr, hfits, -, -⟩ := hk
  obtain ⟨_, phase⟩ := t
  subst hidentity
  rw [after]
  cases phase with
  | empty =>
    obtain ⟨ha, hp⟩ := hr
    rw [if_neg (not_not.2 hp), if_pos ha]
    rfl
  | building c =>
    obtain ⟨ha, hp, hd, hc⟩ := hr
    rw [if_neg (not_not.2 hp), if_neg ha, ← Table.bytes_eq_assembled _ hfits hd hc]
    rfl
  | installed =>
    have hp : publications history ≠ [] := List.ne_nil_of_length_eq_add_one hr
    rw [if_pos hp]
    rfl

/-- **The buffer of a run.**  In every run of calls on one buffer, from empty on:

* the calls are answered as they are on a table, with the same records, and each publisher is shown
  the same bytes;
* the buffer is what the blocks appended so far make, a fresh header that was written over in place
  and the blocks behind it, until a publisher takes it;
* whatever call fails next, a refused table among them, leaves every byte of it as it was. -/
theorem buffer_of_run (identity : Identity) (calls : List (Call ω)) (w : ω) :
    let run := Act.forEach perform calls (({ identity } : TableBuffer), w)
    let model := Table.performAll calls (({ identity } : Table), w)
    run = ⟨model.value, (model.state.1.inBuffer, model.state.2), model.log⟩ ∧
    run.state.1 = ⟨identity, after identity run.value⟩ ∧
    (∀ call, (perform call run.state).value.succeeded = false →
      (perform call run.state).state.1 = run.state.1) := by
  intro run model
  have hrun : run = ⟨model.value, (model.state.1.inBuffer, model.state.2), model.log⟩ :=
    simulates_run calls (({ identity } : Table), w)
  have hkept : Table.Kept identity model.value model.state.1 :=
    Table.kept_performAll w (Table.kept_nil identity) calls
  refine ⟨hrun, ?_, ?_⟩
  · rw [hrun]
    exact inBuffer_of_kept hkept
  · intro call
    have hstate : run.state = Prod.map Table.inBuffer id model.state := by
      rw [hrun]
      rfl
    rw [hstate, simulates_perform call model.state]
    intro hfailed
    have hstep := Table.step_perform call model.state.1 model.state.2
    exact congrArg Table.inBuffer (hstep.eq_of_failed hfailed)

-- length and number are written over with each block, and a refused table has no checksum
example :
    let calls : List (Call Unit) := [.append [7] 1 1, .append [8, 9] 2 3, .install Table.stubborn]
    let buffer := (Act.forEach perform calls (⟨.standard, .empty⟩, ())).state.1.bytes
    buffer.window 4 6 = [43, 0, 0, 0, 1, 0] ∧ buffer.window 36 7 = [4, 0, 0, 0, 7, 8, 9] := by
  exact ⟨rfl, rfl⟩

end TableBuffer

end Hest
