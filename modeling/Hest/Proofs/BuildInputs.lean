import Hest.Build
import Hest.Proofs.FixedCollection
import Hest.Proofs.Identifiers
import Mathlib.Data.List.Forall2

/-!
# What settings bring to a build

Before anything is collected, a build turns its settings into an identity and a registry of
producers.  The identity is the standard one with what the settings name in its place
(`identity_of_valid`), unless that may not be named (`identity_of_invalid`).  Every descriptor file
and every generic source becomes one producer, files first (`installAll_of_le`), up to the first
file that cannot be read (`exists_unread_of_error`) or the first source without room for its
acknowledge register (`installSources_of_far`).  Together the producers hold the descriptors of the
settings (`totals_producersOf`).
-/

namespace Hest

open CommandLine (Settings DescriptorFile SourceEntry)

namespace Build

variable {ω : Type}

/-! ## Identity -/

/-- The identifiers that settings name can be identifiers. -/
structure ValidIdentity (s : Settings) : Prop where
  oemId : ∀ text ∈ s.oemId, IsIdentifier 6 text
  oemTableId : ∀ text ∈ s.oemTableId, IsIdentifier 8 text

/-- The standard identity, with what the settings name in its place. -/
structure Requested (s : Settings) (i : Identity) : Prop where
  oemId : i.oemId.bytes = s.oemId.elim Identity.standard.oemId.bytes (spaced 6)
  oemTableId : i.oemTableId.bytes = s.oemTableId.elim Identity.standard.oemTableId.bytes (spaced 8)
  oemRevision : i.oemRevision = s.oemRevision.getD Identity.standard.oemRevision
  creatorId : i.creatorId = Identity.standard.creatorId
  creatorRevision : i.creatorRevision = Identity.standard.creatorRevision

/-- An identifier that may be named is put in its place; `part` is what stood there. -/
theorem editAll_text {n : Nat} (i : Identity) (edit : String → Identity.Edit)
    (put : Block n → Identity)
    (hedit : ∀ text, i.edit (edit text) = (Identity.padded n text).map put)
    {part : Block n} (hpart : put part = i) {named : Option String}
    (h : ∀ text ∈ named, IsIdentifier n text) (rest : List Identity.Edit) :
    ∃ b, b.bytes = named.elim part.bytes (spaced n) ∧
      i.editAll ((named.map edit).toList ++ rest) = (put b).editAll rest := by
  cases named with
  | none => exact ⟨part, rfl, by rw [hpart]; rfl⟩
  | some text =>
    obtain ⟨b, hb, hbytes⟩ := padded_of_identifier (h text rfl)
    refine ⟨b, hbytes, ?_⟩
    show (i.edit (edit text)).bind (fun i' => i'.editAll rest) = _
    rw [hedit, hb]
    rfl

theorem identity_of_valid {s : Settings} (h : ValidIdentity s) :
    ∃ i, identity s = .ok i ∧ Requested s i := by
  let first (b : Block 6) : Identity := { Identity.standard with oemId := b }
  let second (b : Block 6) (b' : Block 8) : Identity := { first b with oemTableId := b' }
  let revised : List Identity.Edit := (s.oemRevision.map .oemRevision).toList
  obtain ⟨b, hb, hfirst⟩ := editAll_text .standard .oemIdText first (fun _ => rfl) rfl h.oemId
    ((s.oemTableId.map .oemTableIdText).toList ++ revised)
  obtain ⟨b', hb', hsecond⟩ := editAll_text (first b) .oemTableIdText (second b) (fun _ => rfl) rfl
    h.oemTableId revised
  refine ⟨{ second b b' with oemRevision := s.oemRevision.getD Identity.standard.oemRevision }, ?_,
    ⟨hb, hb', rfl, rfl, rfl⟩⟩
  rw [identity, edits, List.append_assoc, hfirst, hsecond]
  cases hrevision : s.oemRevision <;> simp only [revised, hrevision] <;> rfl

/-- An identifier that may not be named is refused, whatever comes after it. -/
theorem editAll_refused {n : Nat} (i : Identity) (edit : String → Identity.Edit)
    (put : Block n → Identity)
    (hedit : ∀ text, i.edit (edit text) = (Identity.padded n text).map put) {text : String}
    (h : ¬IsIdentifier n text) (rest : List Identity.Edit) :
    i.editAll (edit text :: rest) = .error (.invalidIdentifier n) := by
  show (i.edit (edit text)).bind (fun i' => i'.editAll rest) = _
  rw [hedit, padded_of_not_identifier h]
  rfl

/-- **The first identifier is looked at first**, and the second only if the first may be named. -/
theorem identity_of_invalid {s : Settings} {text : String} :
    (s.oemId = some text → ¬IsIdentifier 6 text →
      identity s = .error (.invalidIdentifier 6)) ∧
    ((∀ named ∈ s.oemId, IsIdentifier 6 named) → s.oemTableId = some text →
      ¬IsIdentifier 8 text → identity s = .error (.invalidIdentifier 8)) := by
  constructor
  · intro hnamed h
    rw [identity, edits, hnamed, List.append_assoc]
    exact editAll_refused .standard .oemIdText _ (fun _ => rfl) h _
  · intro hfirst hnamed h
    obtain ⟨b, -, hb⟩ := editAll_text .standard .oemIdText
      (fun b => { Identity.standard with oemId := b }) (fun _ => rfl) rfl hfirst
      ((s.oemTableId.map .oemTableIdText).toList ++ (s.oemRevision.map .oemRevision).toList)
    rw [identity, edits, List.append_assoc, hb, hnamed]
    exact editAll_refused _ .oemTableIdText _ (fun _ => rfl) h _

/-! ## Producers -/

/-- The descriptor of a generic source: it is notified by a synchronous abort, and acknowledged at
the eight bytes after its status address. -/
def sourceOf (e : SourceEntry) : GenericSource :=
  .new e.sourceId e.statusAddress (e.statusAddress + 8) (.new .synchronousAbort 0 0)

/-- The producers of files with given contents, and those of generic sources. -/
def producersOf (s : Settings) (contents : List Bytes) : List FixedSources :=
  List.zipWith (fun f content => ⟨content, f.count⟩) s.descriptors contents ++
    s.sources.map fun e => ⟨(sourceOf e).encode, 1⟩

/-- A registry after more producers were installed, one after another. -/
def installEach (r : Registry FixedSources) (ps : List FixedSources) : Registry FixedSources :=
  ps.foldl (fun r p => (Registry.install p r).state) r

theorem installEach_append (r : Registry FixedSources) (ps qs : List FixedSources) :
    installEach r (ps ++ qs) = installEach (installEach r ps) qs := List.foldl_append

theorem producers_installEach (r : Registry FixedSources) (ps : List FixedSources) :
    (installEach r ps).producers = r.producers ++ ps := by
  induction ps generalizing r with
  | nil => simp [installEach]
  | cons p ps ih =>
    show (installEach (Registry.install p r).state ps).producers = _
    rw [ih]
    simp [Registry.install, Registry.producers]

/-! ### Files -/

/-- Reads files in order, and stops at the first that cannot be read. -/
def readAll (files : Files ω) : List DescriptorFile → Act ω (Except BuildError (List Bytes))
  | [] => pure (.ok [])
  | f :: rest => do
    match ← files.read f.path with
    | .error e => return .error (.read f.path e)
    | .ok content => return (← readAll files rest).map (content :: ·)

section
variable {files : Files ω} {f : DescriptorFile} (fs : List DescriptorFile) {w : ω}

theorem readAll_cons_error {e : FileError} (h : (files.read f.path w).value = .error e) :
    (readAll files (f :: fs) w).value = .error (.read f.path e) ∧
      (readAll files (f :: fs) w).state = (files.read f.path w).state := by
  simp [readAll, h]

theorem readAll_cons_ok {content : Bytes} (h : (files.read f.path w).value = .ok content) :
    (readAll files (f :: fs) w).value =
        (readAll files fs (files.read f.path w).state).value.map (content :: ·) ∧
      (readAll files (f :: fs) w).state = (readAll files fs (files.read f.path w).state).state := by
  simp [readAll, h]

/-- Making producers of files reads them, and fails as reading does. -/
theorem installFiles_apply (files : Files ω) (w : ω) (r : Registry FixedSources) :
    (installFiles files fs (w, r)).value = (readAll files fs w).value.map (fun _ => ()) ∧
    (installFiles files fs (w, r)).state.1 = (readAll files fs w).state ∧
    ∀ contents, (readAll files fs w).value = .ok contents →
      (installFiles files fs (w, r)).state.2 =
        installEach r (List.zipWith (fun f content => ⟨content, f.count⟩) fs contents) := by
  induction fs generalizing w r with
  | nil => exact ⟨rfl, rfl, fun _ _ => by simp [installFiles, installEach]⟩
  | cons f fs ih =>
    cases hread : (files.read f.path w).value with
    | error e =>
      obtain ⟨hvalue, hstate⟩ := readAll_cons_error fs hread
      refine ⟨?_, ?_, ?_⟩
      · simp [installFiles, hread, hvalue, Except.map]
      · simp [installFiles, hread, hstate]
      · intro contents hcontents
        rw [hvalue] at hcontents
        cases hcontents
    | ok content =>
      obtain ⟨hvalue, hstate⟩ := readAll_cons_ok fs hread
      obtain ⟨ihvalue, ihstate, ihregistry⟩ :=
        ih (files.read f.path w).state (Registry.install ⟨content, f.count⟩ r).state
      simp only [installFiles, Act.value_bind, Act.state_bind, Act.value_onFirst,
        Act.state_onFirst, hread, hvalue, hstate]
      refine ⟨?_, ihstate, ?_⟩
      · refine ihvalue.trans ?_
        cases (readAll files fs (files.read f.path w).state).value <;> rfl
      · intro contents hcontents
        cases hrest : (readAll files fs (files.read f.path w).state).value with
        | error why => simp [hrest, Except.map] at hcontents
        | ok rest =>
          obtain rfl : content :: rest = contents := by simpa [hrest, Except.map] using hcontents
          exact ihregistry rest hrest

/-- The first file that cannot be read is the one reading fails with. -/
theorem exists_unread_of_error {why : BuildError} (h : (readAll files fs w).value = .error why) :
    ∃ before f behind contents e, fs = before ++ f :: behind ∧
      (readAll files before w).value = .ok contents ∧
      (files.read f.path (readAll files before w).state).value = .error e ∧
      why = .read f.path e := by
  induction fs generalizing w with
  | nil => cases h
  | cons f fs ih =>
    cases hread : (files.read f.path w).value with
    | error e =>
      rw [(readAll_cons_error fs hread).1] at h
      cases h
      exact ⟨[], f, fs, [], e, rfl, rfl, hread, rfl⟩
    | ok content =>
      rw [(readAll_cons_ok fs hread).1] at h
      cases hrest : (readAll files fs (files.read f.path w).state).value with
      | ok contents => simp [hrest, Except.map] at h
      | error why' =>
        obtain rfl : why' = why := by simpa [hrest, Except.map] using h
        obtain ⟨before, f', behind, contents, e, rfl, hbefore, hf', hwhy⟩ := ih hrest
        obtain ⟨hvalue, hstate⟩ := readAll_cons_ok before hread
        refine ⟨f :: before, f', behind, content :: contents, e, rfl, ?_, ?_, hwhy⟩
        · rw [hvalue, hbefore]
          rfl
        · rw [hstate]
          exact hf'

/-- Reading many files changes nothing if reading one does not. -/
theorem state_readAll (hstill : ∀ path w, (files.read path w).state = w) :
    (readAll files fs w).state = w := by
  induction fs generalizing w with
  | nil => rfl
  | cons f fs ih =>
    cases hread : (files.read f.path w).value with
    | error e => rw [(readAll_cons_error fs hread).2, hstill]
    | ok content => rw [(readAll_cons_ok fs hread).2, ih, hstill]

theorem readAll_of_read (hstill : ∀ path w, (files.read path w).state = w) {contents : List Bytes}
    (h : List.Forall₂ (fun f content => (files.read f.path w).value = .ok content) fs contents) :
    (readAll files fs w).value = .ok contents := by
  induction h with
  | nil => rfl
  | cons hf _ ih =>
    rw [(readAll_cons_ok _ hf).1, hstill, ih]
    rfl

end

/-! ### Generic sources -/

theorem genericSource_of_le {e : SourceEntry} (h : e.statusAddress.toNat ≤ 2 ^ 64 - 9) :
    genericSource e = .ok (sourceOf e) := by
  have hroom : e.statusAddress.toNat + 8 < UInt64.size := by
    have hsize : UInt64.size = 2 ^ 64 := rfl
    omega
  simp [genericSource, SourceEntry.readAckAddress?, hroom, sourceOf]

theorem genericSource_of_far {e : SourceEntry} (h : 2 ^ 64 - 9 < e.statusAddress.toNat) :
    genericSource e = .error (.sourceAddress e.sourceId) := by
  have hroom : ¬e.statusAddress.toNat + 8 < UInt64.size := by
    have hsize : UInt64.size = 2 ^ 64 := rfl
    omega
  simp [genericSource, SourceEntry.readAckAddress?, hroom]

theorem installSources_cons {e : SourceEntry} (h : e.statusAddress.toNat ≤ 2 ^ 64 - 9)
    (es : List SourceEntry) (r : Registry FixedSources) :
    let rest := installSources es (installEach r [⟨(sourceOf e).encode, 1⟩])
    (installSources (e :: es) r).value = rest.value ∧
      (installSources (e :: es) r).state = rest.state := by
  have hproducer : FixedSources.ofGeneric [sourceOf e] = .ok ⟨(sourceOf e).encode, 1⟩ := by
    have hroom : GenericSource.size ≤ Bytes.capacity := by decide
    simp [FixedSources.ofGeneric, hroom]
  simp [installSources, genericSource_of_le h, hproducer, installEach]

theorem installSources_of_le {es : List SourceEntry}
    (h : ∀ e ∈ es, e.statusAddress.toNat ≤ 2 ^ 64 - 9) (r : Registry FixedSources) :
    (installSources es r).value = .ok () ∧ (installSources es r).state =
      installEach r (es.map fun e => ⟨(sourceOf e).encode, 1⟩) := by
  induction es generalizing r with
  | nil => exact ⟨rfl, rfl⟩
  | cons e es ih =>
    obtain ⟨hvalue, hstate⟩ := installSources_cons (h e List.mem_cons_self) es r
    rw [hvalue, hstate]
    exact ih (fun e he => h e (List.mem_cons_of_mem _ he)) _

/-- The first source without room for its acknowledge register is the one that is named. -/
theorem installSources_of_far {before : List SourceEntry}
    (hbefore : ∀ e ∈ before, e.statusAddress.toNat ≤ 2 ^ 64 - 9) {e : SourceEntry}
    (h : 2 ^ 64 - 9 < e.statusAddress.toNat) (behind : List SourceEntry)
    (r : Registry FixedSources) :
    (installSources (before ++ e :: behind) r).value = .error (.sourceAddress e.sourceId) := by
  induction before generalizing r with
  | nil => simp [installSources, genericSource_of_far h]
  | cons e' before ih =>
    rw [List.cons_append, (installSources_cons (hbefore e' List.mem_cons_self) _ r).1]
    exact ih (fun e he => hbefore e (List.mem_cons_of_mem _ he)) _

/-! ### All producers -/

section
variable {files : Files ω} {s : Settings} {w : ω}

theorem installAll_of_unread {why : BuildError}
    (h : (readAll files s.descriptors w).value = .error why) :
    (installAll files s (w, {})).value = .error why ∧
      (installAll files s (w, {})).state.1 = (readAll files s.descriptors w).state := by
  obtain ⟨hvalue, hstate, -⟩ := installFiles_apply s.descriptors files w {}
  rw [h] at hvalue
  simp [installAll, hvalue, hstate, Except.map]

theorem installAll_of_contents {contents : List Bytes}
    (h : (readAll files s.descriptors w).value = .ok contents) :
    let files' := List.zipWith (fun f content => ⟨content, f.count⟩) s.descriptors contents
    let rest := installSources s.sources (installEach {} files')
    (installAll files s (w, {})).value = rest.value ∧
      (installAll files s (w, {})).state = ((readAll files s.descriptors w).state, rest.state) := by
  obtain ⟨hvalue, hstate, hregistry⟩ := installFiles_apply s.descriptors files w {}
  rw [h] at hvalue
  simp [installAll, hvalue, hstate, hregistry contents h, Except.map]

theorem installAll_of_le {contents : List Bytes}
    (h : (readAll files s.descriptors w).value = .ok contents)
    (haddress : ∀ e ∈ s.sources, e.statusAddress.toNat ≤ 2 ^ 64 - 9) :
    (installAll files s (w, {})).value = .ok () ∧ (installAll files s (w, {})).state =
      ((readAll files s.descriptors w).state, installEach {} (producersOf s contents)) := by
  obtain ⟨hvalue, hstate⟩ := installAll_of_contents h
  obtain ⟨hvalue', hstate'⟩ := installSources_of_le haddress _
  rw [hvalue, hstate, hvalue', hstate', producersOf, installEach_append]
  exact ⟨rfl, rfl⟩

end

theorem installAll_of_read {files : Files ω} (hstill : ∀ path w, (files.read path w).state = w)
    {w : ω} {s : Settings} {contents : List Bytes}
    (hread : List.Forall₂ (fun f content => (files.read f.path w).value = .ok content)
      s.descriptors contents) (haddress : ∀ e ∈ s.sources, e.statusAddress.toNat ≤ 2 ^ 64 - 9) :
    ∃ r, (installAll files s (w, {})).value = .ok () ∧ (installAll files s (w, {})).state = (w, r) ∧
      r.producers = producersOf s contents := by
  obtain ⟨hvalue, hstate⟩ := installAll_of_le (readAll_of_read _ hstill hread) haddress
  rw [state_readAll _ hstill] at hstate
  exact ⟨_, hvalue, hstate, producers_installEach {} _⟩

/-! ### What the producers hold -/

/-- The number of descriptors that settings announce. -/
def countOf (s : Settings) : Nat := (s.descriptors.map (·.count)).sum + s.sources.length

/-- The bytes of descriptors that settings bring. -/
def lengthOf (s : Settings) (contents : List Bytes) : Nat :=
  (contents.map (·.length)).sum + 92 * s.sources.length

/-- The descriptors that settings bring, files before generic sources. -/
def bodyOf (s : Settings) (contents : List Bytes) : Bytes :=
  contents.flatten ++ s.sources.flatMap fun e => (sourceOf e).encode

theorem totals_files {fs : List DescriptorFile} {contents : List Bytes}
    (h : fs.length = contents.length) :
    let producers := List.zipWith (fun f content => (⟨content, f.count⟩ : FixedSources)) fs contents
    FixedSources.sums producers = ⟨(fs.map (·.count)).sum, (contents.map (·.length)).sum⟩ ∧
      FixedSources.joined producers = contents.flatten := by
  induction fs generalizing contents with
  | nil =>
    obtain rfl : contents = [] := List.eq_nil_of_length_eq_zero h.symm
    exact ⟨rfl, rfl⟩
  | cons f fs ih =>
    cases contents with
    | nil => cases h
    | cons content contents =>
      obtain ⟨hsums, hjoined⟩ := ih (Nat.succ.inj h)
      constructor
      · rw [List.zipWith_cons_cons, FixedSources.sums_cons, hsums]
        rfl
      · rw [List.zipWith_cons_cons, FixedSources.joined_cons, hjoined]
        rfl

theorem totals_sources (es : List SourceEntry) :
    let producers := es.map fun e => (⟨(sourceOf e).encode, 1⟩ : FixedSources)
    FixedSources.sums producers = ⟨es.length, 92 * es.length⟩ ∧
      FixedSources.joined producers = es.flatMap fun e => (sourceOf e).encode := by
  induction es with
  | nil => exact ⟨rfl, rfl⟩
  | cons e es ih =>
    obtain ⟨hsums, hjoined⟩ := ih
    constructor
    · rw [List.map_cons, FixedSources.sums_cons, hsums]
      simp only [GenericSource.length_encode, GenericSource.size, List.length_cons,
        Totals.mk.injEq]
      omega
    · rw [List.map_cons, FixedSources.joined_cons, hjoined]
      rfl

/-- **The producers hold what the settings bring.** -/
theorem totals_producersOf {s : Settings} {contents : List Bytes}
    (h : s.descriptors.length = contents.length) :
    FixedSources.sums (producersOf s contents) = ⟨countOf s, lengthOf s contents⟩ ∧
      FixedSources.joined (producersOf s contents) = bodyOf s contents := by
  obtain ⟨hsums, hjoined⟩ := totals_files h
  obtain ⟨hsums', hjoined'⟩ := totals_sources s.sources
  constructor
  · rw [producersOf, FixedSources.sums_append, hsums, hsums']
    rfl
  · rw [producersOf, FixedSources.joined_append, hjoined, hjoined']
    rfl

end Build

end Hest
