import Hest.Proofs.FillPass

/-!
# Collections under way

The producers of a registry may change it while they are asked: install producers, and end
installations, their own too.  A collection does not see these changes.  It asks the producers that
were installed when it began, and the registry is left as the steps of the producers leave it.

* `gather_asked`: whom the two passes ask, over any roster.
* `stepsTaken` are the steps that producers take in given questions; `registry_after` shows that
  they account for the registry afterwards.
* `collect_snapshot` joins these for a collection and the one after it.
-/

namespace Hest

namespace Collection

variable {ω π : Type}

/-! ## Whom the passes ask -/

/-- The questions of a collection of `producers` that declares `declared`, with `room` bytes for the
descriptors: those of the first pass, and those of the second. -/
structure Asked (producers : List π) (declared : Totals) (room : Nat)
    (probes fills : List (Query π)) : Prop where
  /-- Each producer is asked once without a destination, in order. -/
  probed : probes.map (·.producer) = producers
  unhanded : ∀ q ∈ probes, q.destination = none
  /-- If there are bytes to come, and room for them, each is asked once with a destination. -/
  filled : 0 < declared.length → declared.length ≤ room → fills.map (·.producer) = producers
  handed : ∀ q ∈ fills, q.destination.isSome
  /-- Else none is. -/
  unfilled : ¬(0 < declared.length ∧ declared.length ≤ room) → fills = []

theorem Asked.fills_eq {producers : List π} {declared : Totals} {room : Nat}
    {probes fills : List (Query π)} (h : Asked producers declared room probes fills) :
    fills = [] ∨ fills.map (·.producer) = producers := by
  by_cases hfit : 0 < declared.length ∧ declared.length ≤ room
  · exact .inr (h.filled hfit.1 hfit.2)
  · exact .inl (h.unfilled hfit)

theorem Asked.mem_producers {producers : List π} {declared : Totals} {room : Nat}
    {probes fills : List (Query π)} (h : Asked producers declared room probes fills) {q : Query π}
    (hq : q ∈ probes ++ fills) : q.producer ∈ producers := by
  rcases List.mem_append.1 hq with hq | hq
  · rw [← h.probed]
    exact List.mem_map_of_mem hq
  · rcases h.fills_eq with rfl | hfilled
    · cases hq
    · rw [← hfilled]
      exact List.mem_map_of_mem hq

/-- A reply declares totals: it is a report with them, or the refusal for want of that room. -/
def Declares (declared : Totals) (room : Nat) (result : Except CollectError Collected) : Prop :=
  (declared.length ≤ room ∧ ∃ written, result = .ok ⟨declared, written⟩) ∨
    (room < declared.length ∧ result = .error (.bufferTooSmall declared.length room))

theorem Passed.handed {region after : Bytes} {qs : List (Query π)} (h : Passed region qs after) :
    ∀ q ∈ qs, q.destination.isSome := by
  induction h with
  | done => simp
  | next hd _ ih => simpa [hd] using ih

/-- **Both passes ask the producers that they are given.** -/
theorem gather_asked (roster : Roster ω π) (producers : List π) (payload : Bytes) (w : ω)
    {declared : Totals} (hd : (probe roster 0 .zero producers w).value = declared) :
    ∃ probes fills, (probe roster.noted 0 .zero producers (w, [])).state.2 = probes ∧
      (gather roster.noted producers payload (w, [])).state.2 = probes ++ fills ∧
      Asked producers declared (payload.length - Announcement.size) probes fills := by
  obtain ⟨probes, hprobes, hprobed, hunhanded⟩ := probe_noted roster 0 .zero producers w []
  rw [List.nil_append] at hprobes
  have hd' : (probe roster.noted 0 .zero producers (w, [])).value = declared :=
    (probe_noted_projects roster 0 .zero producers w []).1.trans hd
  -- without a second pass, the questions are those of the first one
  have hfirst (h : (gather roster.noted producers payload (w, [])).state =
      (probe roster.noted 0 .zero producers (w, [])).state)
      (hno : ¬(0 < declared.length ∧ declared.length ≤ payload.length - Announcement.size)) :
      ∃ probes fills, (probe roster.noted 0 .zero producers (w, [])).state.2 = probes ∧
        (gather roster.noted producers payload (w, [])).state.2 = probes ++ fills ∧
        Asked producers declared (payload.length - Announcement.size) probes fills := by
    refine ⟨probes, [], hprobes, by rw [h, hprobes, List.append_nil], hprobed, hunhanded, ?_,
      by simp, fun _ => rfl⟩
    intro hpos hroom
    exact absurd ⟨hpos, hroom⟩ hno
  by_cases h0 : declared.length = 0
  · exact hfirst (gather_of_zero hd' payload h0).2 (by omega)
  by_cases hroom : payload.length - Announcement.size < declared.length
  · exact hfirst (gather_of_small hd' hroom).2 (by omega)
  · have hpos : 0 < declared.length := Nat.pos_of_ne_zero h0
    have hroom' : declared.length ≤ payload.length - Announcement.size := by omega
    obtain ⟨fills, after, hfills, hfilled, hpassed, -⟩ :=
      gather_filled roster producers hd hpos hroom'
    refine ⟨probes, fills, hprobes, by rw [hfills, hprobes], hprobed, hunhanded, fun _ _ => hfilled,
      hpassed.handed, ?_⟩
    intro hno
    exact absurd ⟨hpos, hroom'⟩ hno

theorem gather_declares (roster : Roster ω π) (producers : List π) (payload : Bytes) (w : ω)
    {declared : Totals} (hd : (probe roster 0 .zero producers w).value = declared) :
    Declares declared (payload.length - Announcement.size)
      (gather roster producers payload w).value.result := by
  by_cases h0 : declared.length = 0
  · rw [(gather_of_zero hd payload h0).1]
    exact .inl ⟨by omega, _, rfl⟩
  by_cases hroom : payload.length - Announcement.size < declared.length
  · rw [(gather_of_small hd hroom).1]
    exact .inr ⟨hroom, rfl⟩
  · obtain ⟨e, -, hvalue, -⟩ := gather_of_fits hd h0 (Nat.le_of_not_lt hroom)
    rw [hvalue]
    exact .inl ⟨Nat.le_of_not_lt hroom, _, rfl⟩

end Collection

/-! ## The steps of producers -/

namespace Registry

open Collection

variable {π σ : Type} (conduct : π → Option Bytes → Registry π → σ → Conduct π σ)

/-- The steps that the producers take in questions, one after another. -/
def stepsTaken : Registry π × σ → List (Query π) → List (Step π)
  | _, [] => []
  | s, q :: qs =>
    (conduct q.producer q.destination s.1 s.2).steps ++ stepsTaken ((roster conduct).after s q) qs

theorem state_steps_append (ss ss' : List (Step π)) (r : Registry π) :
    (steps (ss ++ ss') r).state = (steps ss' (steps ss r).state).state := by
  induction ss generalizing r with
  | nil => rfl
  | cons s ss ih => exact ih _

/-- **The steps account for the registry afterwards.** -/
theorem registry_after (s : Registry π × σ) (qs : List (Query π)) :
    (qs.foldl (roster conduct).after s).1 = (steps (stepsTaken conduct s qs) s.1).state := by
  induction qs generalizing s with
  | nil => rfl
  | cons q qs ih =>
    rw [List.foldl_cons, ih, stepsTaken, state_steps_append]
    rfl

theorem mem_producers {r : Registry π} {h : Handle} {p : π} (hp : r.find? h = some p) :
    p ∈ r.producers := by
  obtain ⟨before, behind, hinstalled, -⟩ := List.lookup_eq_some_iff.1 hp
  simp [producers, hinstalled]

/-! ## The collection -/

/-- A collection on a registry, seen from its questions. -/
structure Snapshot (s : Registry π × σ) (payload : Bytes) (declared : Totals)
    (probes fills : List (Query π)) : Prop where
  /-- These are all its questions. -/
  questions : (collect (roster conduct).noted payload (s, [])).state.2 = probes ++ fills
  /-- They go to the producers that were installed when it began. -/
  asked : Asked s.1.producers declared (payload.length - Announcement.size) probes fills
  declares : Declares declared (payload.length - Announcement.size)
    (collect (roster conduct) payload s).value.result
  /-- The registry afterwards is as the steps of the producers leave it. -/
  after : (collect (roster conduct) payload s).state.1 =
    (steps (stepsTaken conduct s (probes ++ fills)) s.1).state

theorem snapshot_collect (s : Registry π × σ) {payload : Bytes}
    (h : Announcement.size ≤ payload.length) :
    ∃ declared probes fills, Snapshot conduct s payload declared probes fills := by
  have hvalue : (collect (roster conduct) payload s).value =
      (gather (roster conduct) s.1.producers payload s).value :=
    (collect_of_registry h rfl rfl).1
  have hnoted : (collect (roster conduct).noted payload (s, [])).state =
      (gather (roster conduct).noted s.1.producers payload (s, [])).state :=
    (collect_of_registry h rfl rfl).2
  obtain ⟨probes, fills, -, hquestions, hasked⟩ :=
    gather_asked (roster conduct) s.1.producers payload s rfl
  rw [← hnoted] at hquestions
  refine ⟨_, probes, fills, hquestions, hasked, ?_, ?_⟩
  · rw [hvalue]
    exact gather_declares (roster conduct) s.1.producers payload s rfl
  · -- the questions lead to the state that the collection leaves
    obtain ⟨entered, hend⟩ := collect_retraced (roster conduct) (fun _ => rfl) payload (s, [])
    obtain ⟨hstate, hlist⟩ := Prod.mk.inj hend
    have hentered : entered = probes ++ fills := hlist.symm.trans hquestions
    rw [← (collect_noted_projects (roster conduct) payload s []).2.1, hstate, hentered]
    exact registry_after conduct s _

/-- **A collection asks the producers that were installed when it began**, whatever they do to the
registry meanwhile.  Over every registry, and with any room for the announcement:

* each installation is asked once without a destination, in order, and then, just if there are bytes
  declared and room for them, once with a destination;
* a producer that is installed meanwhile is not asked, and one whose installation ends is;
* the registry afterwards is the one before with the steps of the producers taken in order, and the
  next collection asks exactly the producers in it. -/
theorem collect_snapshot (s : Registry π × σ) {payload : Bytes}
    (h : Announcement.size ≤ payload.length) :
    ∃ declared probes fills, Snapshot conduct s payload declared probes fills ∧
      let taken := stepsTaken conduct s (probes ++ fills)
      (∀ p, .install p ∈ taken → p ∉ s.1.producers → ∀ q ∈ probes ++ fills, q.producer ≠ p) ∧
      (∀ handle p, .uninstall handle ∈ taken → s.1.find? handle = some p →
        (∃ q ∈ probes, q.producer = p) ∧ (fills ≠ [] → ∃ q ∈ fills, q.producer = p)) ∧
      ∀ payload', Announcement.size ≤ payload'.length → ∃ declared' probes' fills',
        Snapshot conduct (collect (roster conduct) payload s).state payload' declared' probes'
          fills' ∧
        probes'.map (·.producer) = (steps taken s.1).state.producers := by
  obtain ⟨declared, probes, fills, hsnap⟩ := snapshot_collect conduct s h
  refine ⟨declared, probes, fills, hsnap, ?_, ?_, ?_⟩
  · rintro p - hp q hq rfl
    exact hp (hsnap.asked.mem_producers hq)
  · intro handle p _ hfound
    have hp := mem_producers hfound
    rw [← hsnap.asked.probed] at hp
    refine ⟨by simpa using hp, fun hfills => ?_⟩
    obtain ⟨hpos, hroom⟩ := not_imp_comm.1 hsnap.asked.unfilled hfills
    rw [hsnap.asked.probed, ← hsnap.asked.filled hpos hroom] at hp
    simpa using hp
  · intro payload' h'
    obtain ⟨declared', probes', fills', hnext⟩ := snapshot_collect conduct
      (collect (roster conduct) payload s).state h'
    exact ⟨declared', probes', fills', hnext, by rw [hnext.asked.probed, hsnap.after]⟩

/-- A producer that ends the installations 0 and 2 when it is asked for its size, and installs two
others; asked for its descriptors, it installs itself once more. -/
def unruly : Nat → Option Bytes → Registry Nat → Nat → Conduct Nat Nat :=
  fun p destination _ asked =>
    match destination with
    | none => ⟨⟨.ok (.sizeOnly ⟨1, 2⟩), []⟩,
        if p = 5 then [.uninstall ⟨0⟩, .uninstall ⟨2⟩, .install 8, .install 9] else [], asked + 1⟩
    | some _ => ⟨⟨.ok (.written ⟨1, 2⟩), [.ofNat p, .ofNat asked]⟩,
        if p = 5 then [.install 5] else [], asked + 1⟩

/-- Four installations of three producers. -/
def crowd : Registry Nat := ⟨4, [(⟨0⟩, 5), (⟨1⟩, 6), (⟨2⟩, 7), (⟨3⟩, 5)]⟩

theorem collect_snapshot_unruly : Announcement.size ≤ (Bytes.zeros 24).length ∧
    ∃ declared probes fills, Snapshot unruly (crowd, 0) (Bytes.zeros 24) declared probes fills ∧
      let taken := stepsTaken unruly (crowd, 0) (probes ++ fills)
      (∀ p, .install p ∈ taken → p ∉ crowd.producers → ∀ q ∈ probes ++ fills, q.producer ≠ p) ∧
      (∀ handle p, .uninstall handle ∈ taken → crowd.find? handle = some p →
        (∃ q ∈ probes, q.producer = p) ∧ (fills ≠ [] → ∃ q ∈ fills, q.producer = p)) ∧
      ∀ payload', Announcement.size ≤ payload'.length → ∃ declared' probes' fills',
        Snapshot unruly (collect (roster unruly) (Bytes.zeros 24) (crowd, 0)).state payload'
          declared' probes' fills' ∧
        probes'.map (·.producer) = (steps taken crowd).state.producers :=
  ⟨by decide, collect_snapshot unruly (crowd, 0) (by decide)⟩

-- both newcomers are left for the next collection, and producer 5 came once more with each filling
example : ((collect (roster unruly) (Bytes.zeros 24) (crowd, 0)).state.1).producers =
    [6, 5, 8, 9, 8, 9, 5, 5] := by
  decide

end Registry

end Hest
