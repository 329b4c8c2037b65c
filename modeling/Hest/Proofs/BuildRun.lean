import Hest.Proofs.BuildInputs
import Hest.Proofs.FileTrees
import Hest.Proofs.FixedExchange
import Hest.Proofs.OptionOrder
import Hest.Proofs.TableDecision

/-!
# What a build makes

After its inputs are gathered a build goes through its stages one after another, and each of them is
exact: the client brings all descriptors to the table, and the table is written with one call.

* `collect_empty`, `publish_of_building`: the stages.
* `build_assembled`: what a build makes of files that can be read and settings that are valid.
-/

namespace Hest

open CommandLine (Settings Gives filesGiven sourcesGiven gathered_of_read)

namespace Build

variable {ω ι : Type}

/-! ## Collection -/

open Client Collection

/-- The channel of a build. -/
def channel : Service (Registry FixedSources) := lone.communicate collector

/-- Handlers that work on the first of two states make a dispatcher that does. -/
theorem communicate_onFirst {η σ : Type} (d : Dispatcher η) (serve : η → Service ω)
    (message : Bytes) :
    d.communicate (fun h payload => (Act.onFirst (serve h payload) : Act (ω × σ) _)) message =
      Act.onFirst (d.communicate serve message) := by
  unfold Dispatcher.communicate
  split
  · rfl
  dsimp only
  split
  · rfl
  split
  · rfl
  · rfl

/-- The collection of a build is the client with a table. -/
theorem collect_apply (r : Registry FixedSources) (t : Table) :
    (Build.collect (r, t)).value = (match (conclude channel r t).answer with
      | .error e => .error (.collect e)
      | .ok _ => .ok ()) ∧
    (Build.collect (r, t)).state.2 = (conclude channel r t).table := by
  obtain ⟨hanswer, htable⟩ := conclude_eq_session channel r t
  have hchannel : (lone.communicate fun _ payload => Act.onFirst (answer roster payload)) =
      line channel := funext (communicate_onFirst lone collector)
  have hregister (w : Registry FixedSources × Table) : Act.withLocal ({} : Dispatcher Unit)
      (Act.onSecond (Dispatcher.register descriptorService ())) w = ⟨(.ok (), lone), w, _⟩ := rfl
  have hclient : appendCollected (line channel)
      (fun block length count => Act.onSecond (Table.append block length count)) =
      session channel := rfl
  simp only [Build.collect, Act.value_bind, Act.state_bind, hregister, hchannel, hclient, hanswer,
    htable]
  rcases (session channel (r, t)).value with _ | _ | _ <;> exact ⟨rfl, rfl⟩

/-- A block of descriptors for a table without any. -/
theorem append_empty (i : Identity) (block : Bytes) (h0 : block ≠ [])
    (hlength : block.length + 40 < 2 ^ 32) (count : Nat) :
    (count < 2 ^ 32 → (Table.append block block.length count ⟨i, .empty⟩).value = .ok () ∧
      ∃ c : Contents, (Table.append block block.length count ⟨i, .empty⟩).state = ⟨i, .building c⟩ ∧
        c.descriptors = block ∧ c.count.toNat = count) ∧
    (2 ^ 32 ≤ count →
      (Table.append block block.length count ⟨i, .empty⟩).value = .error .invalidArgument) := by
  have hu : Table.usable block block.length := by
    rw [Table.usable_iff]
    simp [h0]
  have hfits : (⟨i, .empty⟩ : Table).baseLength + block.length < 2 ^ 32 := by
    rw [Table.baseLength_eq rfl]
    show 40 + 0 + block.length < 2 ^ 32
    omega
  constructor
  · intro hcount
    obtain ⟨grown, hgrown⟩ := Table.extend_of_fits hu rfl (Nat.le_refl _) hfits
      (show (0 : UInt32).toNat + count < 2 ^ 32 by simpa using hcount)
    obtain ⟨-, -, c, rfl, hdescriptors, hsum⟩ := Table.extend_eq_ok_iff.1 hgrown
    obtain ⟨hvalue, hstate⟩ := Table.append_of_ok hgrown
    refine ⟨hvalue, c, hstate, ?_, ?_⟩
    · rw [hdescriptors, List.take_length]
      rfl
    · rw [hsum]
      exact Nat.zero_add _
  · intro hcount
    exact (Table.append_of_error (Table.extend_of_many hu rfl (Nat.le_refl _) hfits
      (show 2 ^ 32 ≤ (0 : UInt32).toNat + count by simpa using hcount))).1

/-- **What the collection of a build leaves** of a table without descriptors. -/
theorem collect_empty {r : Registry FixedSources} {count length : Nat} {body : Bytes}
    (hsums : FixedSources.sums r.producers = ⟨count, length⟩)
    (hjoined : FixedSources.joined r.producers = body) (hcount : count < 2 ^ 64)
    (hlength : length + 40 < 2 ^ 32) (i : Identity) :
    (count = 0 ∨ length = 0 → (Build.collect (r, ⟨i, .empty⟩)).value = .ok () ∧
      (Build.collect (r, ⟨i, .empty⟩)).state.2 = ⟨i, .empty⟩) ∧
    (count ≠ 0 → length ≠ 0 → count < 2 ^ 32 →
      (Build.collect (r, ⟨i, .empty⟩)).value = .ok () ∧
      ∃ c : Contents, (Build.collect (r, ⟨i, .empty⟩)).state.2 = ⟨i, .building c⟩ ∧
        c.descriptors = body ∧ c.count.toNat = count) ∧
    (count ≠ 0 → length ≠ 0 → 2 ^ 32 ≤ count →
      (Build.collect (r, ⟨i, .empty⟩)).value = .error (.collect (.append .invalidArgument))) := by
  have hcap : Bytes.capacity = 2 ^ 63 - 1 := rfl
  have hsend : Sendable r := by
    constructor <;> rw [hsums] <;> dsimp only <;> omega
  have hbody : body.length = length := by rw [← hjoined, FixedSources.length_joined, hsums]
  obtain ⟨hvalue, htable⟩ := collect_apply r ⟨i, .empty⟩
  have hd : lone.handler? descriptorService = some () := by decide
  have hserve : collector () = answer roster := rfl
  have hend : Ending _ _ _ _ (conclude channel r ⟨i, .empty⟩) :=
    conclude_unchanged hd hserve hsend ⟨i, .empty⟩
  rw [hsums, hjoined] at hend
  rw [hvalue, htable]
  have happend (h : length ≠ 0) :=
    append_empty i body (List.ne_nil_of_length_pos (by omega)) (by omega) count
  rw [hbody] at happend
  have hroom : length + 40 ≤ Bytes.capacity := by omega
  rcases hend.unchanged hroom with ⟨hnone, hanswer, hkept⟩ | ⟨hc, hl, hsome⟩
  · rw [hanswer, hkept]
    exact ⟨fun _ => ⟨rfl, rfl⟩, fun hc hl => absurd hnone (not_or.2 ⟨hc, hl⟩),
      fun hc hl => absurd hnone (not_or.2 ⟨hc, hl⟩)⟩
  refine ⟨?_, ?_, ?_⟩
  · intro hnone
    exact absurd hnone (not_or.2 ⟨hc, hl⟩)
  · intro _ _ hfits
    obtain ⟨hok, happended⟩ := (happend hl).1 hfits
    rcases hsome with ⟨-, hanswer, hgrown⟩ | ⟨why, hwhy, -⟩
    · rw [hanswer, hgrown]
      exact ⟨rfl, happended⟩
    · rw [hok] at hwhy
      cases hwhy
  · intro _ _ hmany
    have hrefused := (happend hl).2 hmany
    rcases hsome with ⟨hok, -⟩ | ⟨why, hwhy, hanswer⟩
    · rw [hrefused] at hok
      cases hok
    · rw [hrefused] at hwhy
      cases hwhy
      rw [hanswer]

/-! ## Publication -/

section
variable (files : Files ω) (path : String) (w : ω)

/-- Publishing answers as the table does, and leaves the files as the publisher does. -/
theorem publish_apply (t : Table) :
    let e := Table.install (publisher files path) (t, (w, 0))
    (publish files path t w).value = (match e.value with
      | .error why => .error (.install why)
      | .ok _ => .ok ()) ∧
    (publish files path t w).state = e.state.2.1 := by
  simp only [publish, Act.value_bind, Act.state_bind, Act.focus]
  rcases (Table.install (publisher files path) (t, (w, 0))).value with _ | _ | _ <;>
    exact ⟨rfl, rfl⟩

theorem publish_of_empty (i : Identity) :
    (publish files path ⟨i, .empty⟩ w).value = .ok () ∧
      (publish files path ⟨i, .empty⟩ w).state = w :=
  ⟨rfl, rfl⟩

/-- **A table with descriptors is published by writing it**, with its checksum, once. -/
theorem publish_of_building (i : Identity) (c : Contents) :
    let write := files.write path (c.stamped i) w
    (publish files path ⟨i, .building c⟩ w).state = write.state ∧
      (write.value = .ok () → (publish files path ⟨i, .building c⟩ w).value = .ok ()) ∧
      ∀ e, write.value = .error e → (publish files path ⟨i, .building c⟩ w).value =
        .error (.install (.install .deviceError)) := by
  intro write
  have hpublish := publish_apply files path w ⟨i, .building c⟩
  cases h : write.value with
  | ok _ =>
    have hpublished : (publisher files path (c.stamped i) (w, 0)).value = .ok ⟨1⟩ ∧
        (publisher files path (c.stamped i) (w, 0)).state.1 = write.state := by
      simp [publisher, write, h]
    obtain ⟨hvalue, hstate⟩ := Table.install_accepted (publisher files path) (w, 0)
      (t := ⟨i, .building c⟩) rfl hpublished.1
    rw [hpublish.1, hpublish.2, hvalue, hstate]
    refine ⟨hpublished.2, fun _ => rfl, ?_⟩
    intro _ hfailed
    cases hfailed
  | error e =>
    have hrefused : (publisher files path (c.stamped i) (w, 0)).value = .error .deviceError ∧
        (publisher files path (c.stamped i) (w, 0)).state.1 = write.state := by
      simp [publisher, write, h]
    obtain ⟨hvalue, hstate⟩ := Table.install_refused (publisher files path) (w, 0)
      (t := ⟨i, .building c⟩) rfl hrefused.1
    rw [hpublish.1, hpublish.2, hvalue, hstate]
    refine ⟨hrefused.2, ?_, fun _ _ => rfl⟩
    intro hok
    cases hok

end

/-! ## The table -/

/-- What a build makes of settings that bring descriptors. -/
structure Assembled (s : Settings) (contents : List Bytes) (table : Bytes) : Prop where
  length_eq : table.length = 40 + lengthOf s contents
  sum_eq : Checksum.sum table = 0
  header : ∃ h, ErrorSourceHeader.readFrom table = .ok h ∧
    h.description.signature.bytes = [0x48, 0x45, 0x53, 0x54] ∧
    h.description.length.toNat = 40 + lengthOf s contents ∧ h.sourceCount.toNat = countOf s ∧
    Requested s h.description.identity
  body : table.drop 40 = bodyOf s contents

/-- What is offered to a publisher: a header, then the descriptors. -/
theorem stamped_eq (c : Contents) (i : Identity) : ∃ h : ErrorSourceHeader,
    c.stamped i = h.encode ++ c.descriptors ∧
      h.description.signature = ErrorSourceHeader.signature ∧
      h.description.length.toNat = 40 + c.descriptors.length ∧ h.sourceCount = c.count ∧
      h.description.identity = i :=
  ⟨_, rfl, rfl, UInt32.toNat_ofNat_of_lt' c.length_lt, rfl, rfl⟩

theorem assembled_stamped {s : Settings} {contents : List Bytes} {i : Identity}
    (hi : Requested s i) {c : Contents} (hdescriptors : c.descriptors = bodyOf s contents)
    (hlength : (bodyOf s contents).length = lengthOf s contents)
    (hcount : c.count.toNat = countOf s) : Assembled s contents (c.stamped i) := by
  obtain ⟨h, hstamped, hsignature, hlong, hsources, hidentity⟩ := stamped_eq c i
  have hsize : h.encode.length = 40 := h.length_encode
  rw [hdescriptors] at hstamped hlong
  rw [hlength] at hlong
  refine ⟨?_, c.sum_stamped i, ⟨h, ?_, ?_, hlong, ?_, ?_⟩, ?_⟩
  · rw [hstamped, List.length_append, hsize, hlength]
  · rw [hstamped]
    exact ErrorSourceHeader.readFrom_encode hsignature _
  · rw [hsignature]
    rfl
  · rw [hsources, hcount]
  · rw [hidentity]
    exact hi
  · rw [hstamped, List.drop_left' hsize]

/-- The stages of a build, one after another. -/
theorem build_apply {files : Files ω} {s : Settings} {w w' : ω} {i : Identity}
    {r : Registry FixedSources} (hi : identity s = .ok i)
    (hvalue : (installAll files s (w, {})).value = .ok ())
    (hstate : (installAll files s (w, {})).state = (w', r)) :
    let e := Build.collect (r, ⟨i, .empty⟩)
    (∀ why, e.value = .error why →
      (build files s w).value = .error why ∧ (build files s w).state = w') ∧
    (e.value = .ok () →
      (build files s w).value = (publish files s.output e.state.2 w').value ∧
      (build files s w).state = (publish files s.output e.state.2 w').state) := by
  intro e
  constructor
  · intro why h
    have hcollect : (Build.collect (r, ⟨i, .empty⟩)).value = .error why := h
    simp [build, hi, hvalue, hstate, hcollect]
  · intro h
    have hcollect : (Build.collect (r, ⟨i, .empty⟩)).value = .ok () := h
    simp [build, hi, hvalue, hstate, hcollect, e]

/-! ## The build -/

/-- **What a build makes.**  With identifiers that may be named, files that can be read and sources
with room for their acknowledge register:

* without descriptors, or without bytes of them, it succeeds and changes nothing;
* else, with a number of descriptors of 32 bits, it makes the table of the settings, and if that can
  be written, it succeeds, and just the output file is changed;
* with more descriptors the table refuses them, and nothing is changed.

Files come before generic sources, each in the order of their options, whichever way these were
mixed. -/
theorem build_assembled {files : Files ω} {look : ω → ι → Option Node}
    (hfiles : files.Faithful look) {s : Settings} (hidentity : ValidIdentity s) {w : ω}
    {contents : List Bytes}
    (hread : List.Forall₂ (fun f content => (files.read f.path w).value = .ok content)
      s.descriptors contents)
    (haddress : ∀ e ∈ s.sources, e.statusAddress.toNat ≤ 2 ^ 64 - 9)
    (hcount : countOf s < 2 ^ 64) (hlength : lengthOf s contents + 40 < 2 ^ 32) :
    (countOf s = 0 ∨ lengthOf s contents = 0 →
      (build files s w).value = .ok () ∧ (build files s w).state = w) ∧
    (0 < lengthOf s contents → 1 ≤ countOf s → countOf s ≤ 2 ^ 32 - 1 →
      ∃ table, Assembled s contents table ∧
        ((files.write s.output table w).value = .ok () → (build files s w).value = .ok () ∧
          files.Wrote look s.output table w (build files s w).state) ∧
        ∀ e, (files.write s.output table w).value = .error e →
          (build files s w).value = .error (.install (.install .deviceError))) ∧
    (0 < lengthOf s contents → 2 ^ 32 ≤ countOf s →
      (build files s w).value = .error (.collect (.append .invalidArgument)) ∧
        (build files s w).state = w) ∧
    ∀ arguments given, Gives arguments given → CommandLine.read arguments = .ok s →
      s.descriptors = filesGiven given ∧ s.sources = sourcesGiven given := by
  obtain ⟨i, hi, hrequested⟩ := identity_of_valid hidentity
  obtain ⟨r, hvalue, hstate, hproducers⟩ := installAll_of_read hfiles.read_state hread haddress
  obtain ⟨hsums, hjoined⟩ := totals_producersOf hread.length_eq
  rw [← hproducers] at hsums hjoined
  obtain ⟨hnone, hsome, hmany⟩ := collect_empty hsums hjoined hcount hlength i
  obtain ⟨hstopped, hcollected⟩ := build_apply hi hvalue hstate
  refine ⟨?_, ?_, ?_, ?_⟩
  · intro h
    obtain ⟨hok, htable⟩ := hnone h
    obtain ⟨hbuilt, hleft⟩ := hcollected hok
    rw [htable] at hbuilt hleft
    obtain ⟨hpublished, hkept⟩ := publish_of_empty files s.output w i
    exact ⟨hbuilt.trans hpublished, hleft.trans hkept⟩
  · intro hl hc hfits
    obtain ⟨hok, c, htable, hdescriptors, hsources⟩ := hsome (by omega) (by omega) (by omega)
    obtain ⟨hbuilt, hleft⟩ := hcollected hok
    rw [htable] at hbuilt hleft
    obtain ⟨hwritten, hpublished, hrefused⟩ := publish_of_building files s.output w i c
    have hbody : (bodyOf s contents).length = lengthOf s contents := by
      rw [← hjoined, FixedSources.length_joined, hsums]
    refine ⟨c.stamped i, assembled_stamped hrequested hdescriptors hbody hsources, ?_, ?_⟩
    · intro hwrite
      refine ⟨hbuilt.trans (hpublished hwrite), ?_⟩
      rw [hleft, hwritten]
      exact hfiles.wrote _ _ _ hwrite
    · intro e hwrite
      exact hbuilt.trans (hrefused e hwrite)
  · intro hl h
    exact hstopped _ (hmany (by omega) (by omega) h)
  · intro arguments given hgives hs
    exact gathered_of_read hgives hs

/-- Three descriptors: two in a file, and a generic source. -/
def trial : Settings where
  output := "hest.aml"
  descriptors := [⟨"cpu.bin", 2⟩]
  sources := [⟨5, 0x8000⟩]
  oemTableId := some "HESTTEST"

/-- A directory with that file. -/
def desk : FileTree := ⟨[(["cpu.bin"], .file [0xee, 0xee, 0xee])]⟩

theorem build_assembled_trial : FileTree.files.Faithful FileTree.find? ∧ ValidIdentity trial ∧
    List.Forall₂ (fun f content => (FileTree.files.read f.path desk).value = .ok content)
      trial.descriptors [[0xee, 0xee, 0xee]] ∧
    (∀ e ∈ trial.sources, e.statusAddress.toNat ≤ 2 ^ 64 - 9) ∧ countOf trial < 2 ^ 64 ∧
    lengthOf trial [[0xee, 0xee, 0xee]] + 40 < 2 ^ 32 ∧
    ∃ table, Assembled trial [[0xee, 0xee, 0xee]] table ∧
      (build FileTree.files trial desk).value = .ok () ∧
      FileTree.files.Wrote FileTree.find? "hest.aml" table desk
        (build FileTree.files trial desk).state := by
  have hidentity : ValidIdentity trial := by
    refine ⟨by simp [trial], ?_⟩
    rintro _ ⟨⟩
    exact ⟨by simp, by simp⟩
  have hread : List.Forall₂
      (fun f content => (FileTree.files.read f.path desk).value = .ok content)
      trial.descriptors [[0xee, 0xee, 0xee]] := .cons rfl .nil
  have haddress : ∀ e ∈ trial.sources, e.statusAddress.toNat ≤ 2 ^ 64 - 9 := by decide
  refine ⟨FileTree.faithful, hidentity, hread, haddress, by decide, by decide, ?_⟩
  obtain ⟨-, hsome, -⟩ :=
    build_assembled FileTree.faithful hidentity hread haddress (by decide) (by decide)
  obtain ⟨table, htable, hwritten, -⟩ := hsome (by decide) (by decide) (by decide)
  exact ⟨table, htable, hwritten rfl⟩

end Build

end Hest
