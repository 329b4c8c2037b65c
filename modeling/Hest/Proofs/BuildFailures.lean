import Hest.Program
import Hest.Proofs.BuildRun

/-!
# How a build fails

Many of the settings of a build may be wrong at once.  `Stage.failure?` says of each stage on its
own whether it fails, and `Stage.left` what it leaves of the files; up to the publication these are
only read.

* `build_stages`: the first stage that fails decides what a build answers and leaves.
* `exists_unread_of_error` (in `Hest.Proofs.BuildInputs`): of the descriptor files, the first that
  cannot be read is the one that is named.
* `build_fails_first`: how the program fails, and what it shows of that.
-/

namespace Hest

open CommandLine (Settings)

namespace Build

variable {ω : Type}

/-! ## Stages -/

/-- The stages of a build that may fail. -/
inductive Stage where
  | oemId
  | oemTableId
  | files
  | sources
  | collection
  | publication
deriving DecidableEq

/-- The stages in their order. -/
def Stage.all : List Stage := [.oemId, .oemTableId, .files, .sources, .collection, .publication]

/-- The error of a result, if it is one. -/
def errorOf? {ε α : Type} : Except ε α → Option ε
  | .error e => some e
  | .ok _ => none

instance (n : Nat) (text : String) : Decidable (IsIdentifier n text) :=
  inferInstanceAs (Decidable (_ ∧ _))

/-- The stages before another one. -/
def Stage.before (stage : Stage) : List Stage := Stage.all.takeWhile (· ≠ stage)

/-- What is wrong with a text that is named as identifier of at most `n` characters. -/
def misnamed? (n : Nat) : Option String → Option BuildError
  | none => none
  | some text => if IsIdentifier n text then none else some (.identity (.invalidIdentifier n))

/-- Writes a table to a file, with its checksum, if it holds descriptors. -/
def writeTable (files : Files ω) (path : String) (t : Table) : Act ω (Except FileError Unit) :=
  match t.phase with
  | .building c => files.write path (c.stamped t.identity)
  | _ => pure (.ok ())

section
variable (files : Files ω) (s : Settings) (w : ω)

/-- What the descriptor files hold, if they can be read. -/
def contentsOf : List Bytes := (readAll files s.descriptors w).value.toOption.getD []

/-- The identity that settings ask for, if there can be such. -/
def identityOf : Identity := (identity s).toOption.getD .standard

/-- What the client makes of the producers of the settings, and of a table without descriptors. -/
def collected : Client.Conclusion :=
  Client.conclude channel (installEach {} (producersOf s (contentsOf files s w)))
    ⟨identityOf s, .empty⟩

/-- The one write of a build, after the descriptor files were read. -/
def published : Effect ω (Except FileError Unit) :=
  writeTable files s.output (collected files s w).table (readAll files s.descriptors w).state

/-- Why a stage fails, whatever the others do. -/
def Stage.failure? (stage : Stage) : Option BuildError :=
  match stage with
  | .oemId => misnamed? 6 s.oemId
  | .oemTableId => misnamed? 8 s.oemTableId
  | .files => errorOf? (readAll files s.descriptors w).value
  | .sources =>
    (s.sources.find? fun e => 2 ^ 64 - 9 < e.statusAddress.toNat).map fun e =>
      .sourceAddress e.sourceId
  | .collection => (errorOf? (collected files s w).answer).map .collect
  | .publication =>
    (errorOf? (published files s w).value).map fun _ => .install (.install .deviceError)

/-- What a build leaves of the files that goes as far as a stage. -/
def Stage.left (stage : Stage) : ω :=
  match stage with
  | .oemId | .oemTableId => w
  | .files | .sources | .collection => (readAll files s.descriptors w).state
  | .publication => (published files s w).state

/-- The first stage that fails, and why. -/
def firstFailure? : Option (Stage × BuildError) :=
  Stage.all.findSome? fun stage => (stage.failure? files s w).map (stage, ·)

end

/-! ## One stage after another -/

/-- A search that tells where it found something: nothing stands before that. -/
theorem findSome?_tagged {α β : Type} [DecidableEq α] {f : α → Option β} {l : List α} {a : α}
    {b : β} : (l.findSome? fun x => (f x).map (x, ·)) = some (a, b) ↔
      a ∈ l ∧ f a = some b ∧ ∀ x ∈ l.takeWhile (· ≠ a), f x = none := by
  induction l with
  | nil => simp
  | cons x l ih =>
    by_cases hx : x = a
    · subst hx
      cases hf : f x with
      | some c => simp [hf]
      | none => simp [hf, ih]
    · cases hf : f x with
      | some c => simp [hf, hx]
      | none => simp [hf, hx, Ne.symm hx, ih]

section
variable {files : Files ω} {s : Settings} {w : ω}

theorem firstFailure?_eq_some_iff {stage : Stage} {why : BuildError} :
    firstFailure? files s w = some (stage, why) ↔
      stage.failure? files s w = some why ∧
        ∀ earlier ∈ stage.before, earlier.failure? files s w = none := by
  have hall : stage ∈ Stage.all := by cases stage <;> decide
  rw [firstFailure?, findSome?_tagged]
  simp [hall, Stage.before]

theorem firstFailure?_eq_none_iff :
    firstFailure? files s w = none ↔ ∀ stage : Stage, stage.failure? files s w = none := by
  have hall (stage : Stage) : stage ∈ Stage.all := by cases stage <;> decide
  simp [firstFailure?, List.findSome?_eq_none_iff, hall]

end

theorem misnamed?_eq_none_iff {n : Nat} {named : Option String} :
    misnamed? n named = none ↔ ∀ text ∈ named, IsIdentifier n text := by
  cases named <;> simp [misnamed?]

theorem misnamed?_eq_some_iff {n : Nat} {named : Option String} {why : BuildError} :
    misnamed? n named = some why ↔
      ∃ text, named = some text ∧ ¬IsIdentifier n text ∧
        why = .identity (.invalidIdentifier n) := by
  cases named <;> simp [misnamed?, eq_comm]

theorem errorOf?_eq_some_iff {ε α : Type} {result : Except ε α} {e : ε} :
    errorOf? result = some e ↔ result = .error e := by
  cases result <;> simp [errorOf?]

theorem errorOf?_eq_none_iff {ε α : Type} {result : Except ε α} :
    errorOf? result = none ↔ ∃ a, result = .ok a := by
  cases result <;> simp [errorOf?]

/-- The client gives a table its descriptors, and nothing more. -/
theorem collected_unpublished (files : Files ω) (s : Settings) (w : ω) :
    (collected files s w).table.isInstalled = false := by
  refine Client.conclude_keeps (I := fun t => t.isInstalled = false) ?_ _ _ rfl
  intro block length count t ht
  cases h : t.extend block length count with
  | error e => rw [(Table.append_of_error h).2]; exact ht
  | ok grown =>
    obtain ⟨-, -, c, rfl, -⟩ := Table.extend_eq_ok_iff.1 h
    rw [(Table.append_of_ok h).2]
    rfl

/-- A table that was not published yet is published by writing it. -/
theorem publish_of_unpublished (files : Files ω) (path : String) (w : ω) {t : Table}
    (h : t.isInstalled = false) :
    (publish files path t w).state = (writeTable files path t w).state ∧
      ((writeTable files path t w).value = .ok () → (publish files path t w).value = .ok ()) ∧
      ∀ e, (writeTable files path t w).value = .error e →
        (publish files path t w).value = .error (.install (.install .deviceError)) := by
  obtain ⟨i, phase⟩ := t
  cases phase with
  | installed => cases h
  | building c => exact publish_of_building files path w i c
  | empty =>
    obtain ⟨hvalue, hstate⟩ := publish_of_empty files path w i
    refine ⟨hstate, fun _ => hvalue, ?_⟩
    intro e he
    cases he

section
variable {files : Files ω} {s : Settings} {w : ω}

theorem build_of_identity {e : LayoutError} (h : identity s = .error e) :
    (build files s w).value = .error (.identity e) ∧ (build files s w).state = w := by
  simp [build, h]

variable {why : BuildError}

theorem build_of_oemId (h : Stage.oemId.failure? files s w = some why) :
    (build files s w).value = .error why ∧ (build files s w).state = w := by
  obtain ⟨text, hnamed, hinvalid, rfl⟩ := misnamed?_eq_some_iff.1 h
  exact build_of_identity (identity_of_invalid.1 hnamed hinvalid)

variable (h₁ : Stage.oemId.failure? files s w = none)
include h₁

theorem build_of_oemTableId (h : Stage.oemTableId.failure? files s w = some why) :
    (build files s w).value = .error why ∧ (build files s w).state = w := by
  obtain ⟨text, hnamed, hinvalid, rfl⟩ := misnamed?_eq_some_iff.1 h
  exact build_of_identity
    (identity_of_invalid.2 (misnamed?_eq_none_iff.1 h₁) hnamed hinvalid)

variable (h₂ : Stage.oemTableId.failure? files s w = none)
include h₂

theorem identity_eq_ok : identity s = .ok (identityOf s) := by
  obtain ⟨i, hi, -⟩ :=
    identity_of_valid ⟨misnamed?_eq_none_iff.1 h₁, misnamed?_eq_none_iff.1 h₂⟩
  rw [identityOf, hi]
  rfl

theorem build_of_install (h : (installAll files s (w, {})).value = .error why) :
    (build files s w).value = .error why ∧
      (build files s w).state = (installAll files s (w, {})).state.1 := by
  simp [build, identity_eq_ok h₁ h₂, h]

theorem build_of_files (h : Stage.files.failure? files s w = some why) :
    (build files s w).value = .error why ∧
      (build files s w).state = (readAll files s.descriptors w).state := by
  obtain ⟨hvalue, hstate⟩ := installAll_of_unread (errorOf?_eq_some_iff.1 h)
  rw [← hstate]
  exact build_of_install h₁ h₂ hvalue

variable (h₃ : Stage.files.failure? files s w = none)
include h₃

omit h₁ h₂ in
theorem readAll_eq_ok : (readAll files s.descriptors w).value = .ok (contentsOf files s w) := by
  obtain ⟨contents, hread⟩ := errorOf?_eq_none_iff.1 h₃
  rw [contentsOf, hread]
  rfl

theorem build_of_sources (h : Stage.sources.failure? files s w = some why) :
    (build files s w).value = .error why ∧
      (build files s w).state = (readAll files s.descriptors w).state := by
  obtain ⟨e, hfind, rfl⟩ := Option.map_eq_some_iff.1 h
  obtain ⟨hfar, before, behind, hsplit, hbefore⟩ := List.find?_eq_some_iff_append.1 hfind
  obtain ⟨hvalue, hstate⟩ := installAll_of_contents (readAll_eq_ok h₃)
  rw [hsplit, installSources_of_far (by simpa using hbefore) (by simpa using hfar)] at hvalue
  obtain ⟨hbuilt, hleft⟩ := build_of_install h₁ h₂ hvalue
  exact ⟨hbuilt, hleft.trans (congrArg Prod.fst hstate)⟩

variable (h₄ : Stage.sources.failure? files s w = none)
include h₄

omit h₁ h₂ h₃ in
theorem statusAddress_le : ∀ e ∈ s.sources, e.statusAddress.toNat ≤ 2 ^ 64 - 9 := by
  simpa [Stage.failure?] using h₄

theorem build_of_collection (h : Stage.collection.failure? files s w = some why) :
    (build files s w).value = .error why ∧
      (build files s w).state = (readAll files s.descriptors w).state := by
  obtain ⟨hvalue, hstate⟩ := installAll_of_le (readAll_eq_ok h₃) (statusAddress_le h₄)
  obtain ⟨e, he, rfl⟩ := Option.map_eq_some_iff.1 h
  refine (build_apply (identity_eq_ok h₁ h₂) hvalue hstate).1 _ ?_
  have hanswer : (Client.conclude channel _ _).answer = .error e := errorOf?_eq_some_iff.1 he
  rw [(collect_apply _ _).1, hanswer]

variable (h₅ : Stage.collection.failure? files s w = none)
include h₅

/-- Once the descriptors are collected, the write decides. -/
theorem build_of_collected :
    (build files s w).state = (published files s w).state ∧
      ((published files s w).value = .ok () → (build files s w).value = .ok ()) ∧
      ∀ e, (published files s w).value = .error e →
        (build files s w).value = .error (.install (.install .deviceError)) := by
  obtain ⟨hvalue, hstate⟩ := installAll_of_le (readAll_eq_ok h₃) (statusAddress_le h₄)
  obtain ⟨outcome, houtcome⟩ := errorOf?_eq_none_iff.1 (Option.map_eq_none_iff.1 h₅)
  have hanswer : (Client.conclude channel _ _).answer = .ok outcome := houtcome
  obtain ⟨hbuilt, hleft⟩ := (build_apply (identity_eq_ok h₁ h₂) hvalue hstate).2
    (by rw [(collect_apply _ _).1, hanswer])
  rw [(collect_apply _ _).2] at hbuilt hleft
  rw [hbuilt, hleft]
  exact publish_of_unpublished files s.output _ (collected_unpublished files s w)

end

/-! ## The first failure -/

/-- **The first stage that fails decides** what a build answers, and what it leaves of the files. -/
theorem build_stages (files : Files ω) (s : Settings) (w : ω) :
    (firstFailure? files s w = none →
      (build files s w).value = .ok () ∧ (build files s w).state = (published files s w).state) ∧
    ∀ stage why, firstFailure? files s w = some (stage, why) →
      (build files s w).value = .error why ∧ (build files s w).state = stage.left files s w := by
  constructor
  · intro h
    have hnone := firstFailure?_eq_none_iff.1 h
    obtain ⟨hstate, hpublished, -⟩ := build_of_collected (hnone .oemId) (hnone .oemTableId)
      (hnone .files) (hnone .sources) (hnone .collection)
    obtain ⟨_, hwrite⟩ := errorOf?_eq_none_iff.1 (Option.map_eq_none_iff.1 (hnone .publication))
    exact ⟨hpublished hwrite, hstate⟩
  · intro stage why h
    obtain ⟨hfails, hbefore⟩ := firstFailure?_eq_some_iff.1 h
    cases stage with
    | oemId => exact build_of_oemId hfails
    | oemTableId => exact build_of_oemTableId (hbefore .oemId (by decide)) hfails
    | files =>
      exact build_of_files (hbefore .oemId (by decide)) (hbefore .oemTableId (by decide)) hfails
    | sources =>
      exact build_of_sources (hbefore .oemId (by decide)) (hbefore .oemTableId (by decide))
        (hbefore .files (by decide)) hfails
    | collection =>
      exact build_of_collection (hbefore .oemId (by decide)) (hbefore .oemTableId (by decide))
        (hbefore .files (by decide)) (hbefore .sources (by decide)) hfails
    | publication =>
      obtain ⟨hstate, -, hrefused⟩ := build_of_collected (hbefore .oemId (by decide))
        (hbefore .oemTableId (by decide)) (hbefore .files (by decide))
        (hbefore .sources (by decide)) (hbefore .collection (by decide))
      obtain ⟨e, he, rfl⟩ := Option.map_eq_some_iff.1 hfails
      exact ⟨hrefused e (errorOf?_eq_some_iff.1 he), hstate⟩

/-! ## The program -/

/-- The last record of a log is shown last, if it is shown at all. -/
theorem shown_append (level : Log.Level) (log : List Log.Record) {r : Log.Record}
    (h : r.shownAt level = true) :
    Program.shown level (log ++ [r]) = Program.shown level log ++ (r.text ++ "\n") := by
  simp [Program.shown, h]

/-- The record of a failure. -/
def failureRecord (why : BuildError) : Log.Record := ⟨.error, .builder, why.message⟩

/-- A failure is shown whatever the command line asks for. -/
theorem shownAt_failureRecord (level : Log.Level) (why : BuildError) :
    (failureRecord why).shownAt level = true := by
  cases level <;> rfl

theorem execute_of_error {files : Files ω} {s : Settings} {w : ω} {why : BuildError}
    (h : (build files s w).value = .error why) :
    Program.execute files s w =
      ⟨1, (build files s w).state, (build files s w).log ++ [failureRecord why]⟩ := by
  show Effect.mk _ _ _ = _
  simp [h, failureRecord]

theorem execute_of_ok {files : Files ω} {s : Settings} {w : ω}
    (h : (build files s w).value = .ok ()) :
    (Program.execute files s w).value = 0 ∧
      (Program.execute files s w).state = (build files s w).state := by
  simp [Program.execute, h]

/-- How a build, and the program, fails at a stage. -/
structure FailsAt (files : Files ω) (s : Settings) (w : ω) (stage : Stage) (why : BuildError) :
    Prop where
  value : (build files s w).value = .error why
  state : (build files s w).state = stage.left files s w
  /-- Nothing is written up to the publication. -/
  unchanged : (∀ path v, (files.read path v).state = v) → stage ≠ .publication →
    (build files s w).state = w
  /-- The file that is named is the first that cannot be read. -/
  unread : stage = .files → ∃ before f behind contents e,
    s.descriptors = before ++ f :: behind ∧ (readAll files before w).value = .ok contents ∧
      (files.read f.path (readAll files before w).state).value = .error e ∧ why = .read f.path e
  unwritten : stage = .publication → why = .install (.install .deviceError)
  /-- The failure is the last record of the program. -/
  execute : Program.execute files s w =
    ⟨1, stage.left files s w, (build files s w).log ++ [failureRecord why]⟩
  /-- The failure is shown last, whatever the command line. -/
  run : ∀ arguments, CommandLine.read arguments = .ok s →
    runProgram files arguments w =
      (⟨1, "", Program.shown (Program.level s) (build files s w).log ++
        ((failureRecord why).text ++ "\n")⟩, stage.left files s w)

/-- **A build fails as the first stage does that fails**, whatever the later ones would do:

* the stages are the two identifiers, the descriptor files and the generic sources in the order of
  their options, the collection and the publication;
* nothing is written before the publication, and of a table that cannot be written the program says
  that the device failed;
* the program shows the failure in its last record, as an error, and exits with 1.

If no stage fails, it exits with 0, and what is left of the files is what the one write leaves. -/
theorem build_fails_first (files : Files ω) (s : Settings) (w : ω) :
    (firstFailure? files s w = none →
      (build files s w).value = .ok () ∧ (Program.execute files s w).value = 0 ∧
        (Program.execute files s w).state = (published files s w).state) ∧
    ∀ stage why, firstFailure? files s w = some (stage, why) →
      FailsAt files s w stage why := by
  obtain ⟨hok, hfails⟩ := build_stages files s w
  constructor
  · intro h
    obtain ⟨hvalue, hstate⟩ := hok h
    obtain ⟨hcode, hleft⟩ := execute_of_ok hvalue
    exact ⟨hvalue, hcode, hleft.trans hstate⟩
  · intro stage why h
    obtain ⟨hvalue, hstate⟩ := hfails stage why h
    have hfailure := (firstFailure?_eq_some_iff.1 h).1
    have hexecute := execute_of_error hvalue
    rw [hstate] at hexecute
    refine ⟨hvalue, hstate, ?_, ?_, ?_, hexecute, ?_⟩
    · intro hstill hstage
      have hread := state_readAll s.descriptors (w := w) hstill
      rw [hstate]
      cases stage with
      | oemId | oemTableId => rfl
      | files | sources | collection => exact hread
      | publication => exact absurd rfl hstage
    · rintro rfl
      exact exists_unread_of_error s.descriptors (errorOf?_eq_some_iff.1 hfailure)
    · rintro rfl
      obtain ⟨e, -, hwhy⟩ := Option.map_eq_some_iff.1 hfailure
      exact hwhy.symm
    · intro arguments hs
      rw [runProgram, hs]
      simp only [hexecute]
      rw [shown_append _ _ (shownAt_failureRecord _ why)]

-- an identifier is too long, a file is missing, and a source has no room for its register
example : (build FileTree.files
    { output := "hest.aml", oemTableId := some "HESTTESTS", descriptors := [⟨"gpu.bin", 1⟩]
      sources := [⟨5, 0xfffffffffffffff8⟩] } ⟨[]⟩).value =
    .error (.identity (.invalidIdentifier 8)) := by
  decide

end Build

end Hest
