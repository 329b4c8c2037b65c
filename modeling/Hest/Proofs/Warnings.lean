import Hest.Proofs.CountedProducers
import Hest.Proofs.Negotiation
import Mathlib.Algebra.BigOperators.Fin

/-!
# When a collection warns

A collection warns of producers that it leaves out, and of descriptors that do not come.  Producers
may report what they like themselves; what the collection reports is read off a run over the same
producers with their reports muted.

* `warns_probe`, `warns_fill`: the warnings of the two passes, by their questions.
* `collect_warned`: when a collection that came to its second pass warns.  A counted producer of
  which nothing is accepted makes it warn, unless it answers without saying that it failed, and
  others take its bytes.
* `lost_unreported`: such a loss goes without any warning.
-/

namespace Hest

namespace Log

/-- A log has a warning. -/
def Warns (log : List Record) : Prop := ∃ r ∈ log, r.level = .warn

instance (log : List Record) : Decidable (Warns log) :=
  inferInstanceAs (Decidable (∃ r ∈ log, r.level = .warn))

@[simp] theorem not_warns_nil : ¬Warns [] := fun ⟨_, hr, _⟩ => by cases hr

@[simp] theorem warns_cons (r : Record) (log : List Record) :
    Warns (r :: log) ↔ r.level = .warn ∨ Warns log := List.exists_mem_cons_iff _ _ _

@[simp] theorem warns_append (log log' : List Record) :
    Warns (log ++ log') ↔ Warns log ∨ Warns log' := by
  simp only [Warns, List.mem_append, or_and_right, exists_or]

theorem Warns.mono {log log' : List Record} (h : Warns log) (hsub : log.Sublist log') :
    Warns log' := by
  obtain ⟨r, hr, hlevel⟩ := h
  exact ⟨r, hsub.subset hr, hlevel⟩

end Log

open Log (Warns)

/-- The same producers, without what they report. -/
def Roster.muted {ω π : Type} (roster : Roster ω π) : Roster ω π where
  locate := Act.muted roster.locate
  ask producer destination := Act.muted (roster.ask producer destination)

/-- A producer that is asked to write did not, and the collection warns of it: it fails, it reports
more than it had room for, or it reports the size of descriptors that are left. -/
def Query.Failed {π : Type} (q : Query π) : Prop :=
  q.accepted = none ∧ ∀ t, q.answer.outcome = .ok (.sizeOnly t) → ¬t.isEmpty

namespace Collection

variable {ω π : Type}

/-- **Muting the producers changes nothing** but what they report. -/
theorem collect_muted (roster : Roster ω π) (payload : Bytes) :
    Act.Quieter (collect roster.muted payload) (collect roster payload) :=
  collect_compatible .quieter _ _ (fun p d => .muted (roster.ask p d)) (.muted roster.locate)
    payload

/-! ## The passes -/

theorem level_tally (index : Nat) (total : Totals) (a : Answer) :
    (tally index total a.outcome).2.level = .warn ↔
      (∃ t, a.outcome = .ok (.written t)) ∨ ∃ t, a.size? = some t ∧ ¬Fits (total + t) := by
  obtain ⟨(status | (t | t)), bytes⟩ := a
  · simp [tally, Answer.size?]
  · by_cases hfits : Fits (total + t)
    · simp [tally, Answer.size?, Totals.add?_of_fits hfits, hfits]
    · simp [tally, Answer.size?, Totals.add?_of_not_fits hfits, hfits]
  · simp [tally]

/-- **The first pass warns** of producers that report to have written, and of those whose sizes do
not fit: there are such if the full sums do not. -/
theorem warns_probe (roster : Roster ω π) (index : Nat) (total : Totals) (producers : List π)
    (w : ω) (before : List (Query π)) : ∃ queries,
      (probe roster.noted index total producers (w, before)).state.2 = before ++ queries ∧
      (Fits total → (Warns (probe roster.muted index total producers w).log ↔
        (∃ q ∈ queries, ∃ t, q.answer.outcome = .ok (.written t)) ∨
          ¬Fits (total + (queries.filterMap (·.answer.size?)).sum))) := by
  induction producers generalizing index total w before with
  | nil =>
    refine ⟨[], by simp [probe], fun hfits => ?_⟩
    simp [probe, hfits]
  | cons p ps ih =>
    let q : Query π := ⟨p, none, (roster.ask p none w).value⟩
    let next := (tally index total q.answer.outcome).1
    obtain ⟨queries, hs, hwarns⟩ := ih (index + 1) next (roster.ask p none w).state (before ++ [q])
    refine ⟨q :: queries, ?_, fun hfits => ?_⟩
    · rw [← List.append_cons] at hs
      exact hs
    have hlog : (probe roster.muted index total (p :: ps) w).log =
        (tally index total q.answer.outcome).2 ::
          (probe roster.muted (index + 1) next ps (roster.ask p none w).state).log := rfl
    have hnext : next = (q.answer.size?.bind total.add?).getD total := tally_eq index total q.answer
    rw [hlog, Log.warns_cons, level_tally, hwarns (fits_tally index hfits _),
      List.exists_mem_cons_iff]
    cases hsize : q.answer.size? with
    | none =>
      simp only [List.filterMap_cons, hsize, hnext]
      simp [or_assoc]
    | some t =>
      simp only [List.filterMap_cons, hsize, hnext, List.sum_cons, ← add_assoc]
      by_cases ht : Fits (total + t)
      · simp [Totals.add?_of_fits ht, ht, or_assoc]
      · -- once a sum does not fit, no larger one does
        have hsum : ¬Fits (total + t + (queries.filterMap (·.answer.size?)).sum) :=
          fun h => ht h.of_add
        simp [ht, hsum]

theorem warns_verdict (index : Nat) {q : Query π} {region : Bytes}
    (hd : q.destination = some region) :
    Warns (verdict index region.length q.answer.outcome).2 ↔ q.Failed := by
  obtain ⟨p, d, ⟨(status | (t | t)), bytes⟩⟩ := q
  · simp [verdict, Query.Failed, Query.accepted]
  · by_cases hempty : t.isEmpty
    · simp [verdict, Query.Failed, Query.accepted, hempty]
    · simp [verdict, Query.Failed, Query.accepted, hempty]
  · cases hd
    by_cases hroom : t.length ≤ region.length
    · simp [verdict, Query.Failed, Query.accepted, hroom]
    · simp [verdict, Query.Failed, Query.accepted, hroom]

/-- **The second pass warns** of producers that fail. -/
theorem warns_fill (roster : Roster ω π) (index : Nat) {written : Totals}
    (hw : written.count < 2 ^ 64) (region : Bytes) (producers : List π) (w : ω)
    (before : List (Query π)) : ∃ fills,
      (fill roster.noted index written region producers (w, before)).state.2 = before ++ fills ∧
      (Warns (fill roster.muted index written region producers w).log ↔
        ∃ q ∈ fills, q.Failed) := by
  induction producers generalizing index written region w before with
  | nil => exact ⟨[], by simp [fill], by simp [fill]⟩
  | cons p ps ih =>
    let q : Query π := ⟨p, some region, (roster.ask p (some region) w).value⟩
    let sum : Totals := ⟨countUpTo written.count q.counted, written.length + q.taken⟩
    have hsum : sum.count < 2 ^ 64 := by
      show countUpTo written.count q.counted < 2 ^ 64
      rw [countUpTo_eq]; omega
    obtain ⟨e, he, -, hstate, -⟩ :=
      fill_cons roster.noted index hw ps (w := (w, before)) (rfl : q = _)
    obtain ⟨e', he', -, -, hlog⟩ := fill_cons roster.muted index hw ps (w := w) (rfl : q = _)
    obtain ⟨fills, hs, hwarns⟩ := ih (index + 1) hsum (q.left.drop q.taken)
      (roster.ask p (some region) w).state (before ++ [q])
    refine ⟨q :: fills, ?_, ?_⟩
    · rw [hstate, he, List.append_cons]
      exact hs
    · have hmuted : (roster.muted.ask p (some region) w).log = [] := rfl
      rw [hlog, hmuted, List.nil_append, Log.warns_append, warns_verdict index rfl,
        List.exists_mem_cons_iff, he']
      exact or_congr_right hwarns

/-! ## The collection -/

/-- What a collection warns of that comes to its second pass. -/
theorem warns_gather_of_fits {roster : Roster ω π} {producers : List π} {payload : Bytes} {w : ω}
    {declared : Totals} (hd : (probe roster 0 .zero producers w).value = declared)
    (hpos : 0 < declared.length)
    (hroom : declared.length ≤ payload.length - Announcement.size) :
    ∃ written, (gather roster producers payload w).value.result = .ok ⟨declared, written⟩ ∧
      (Warns (gather roster producers payload w).log ↔
        Warns (probe roster 0 .zero producers w).log ∨
        Warns (fill roster 0 .zero (payload.drop Announcement.size) producers
          (probe roster 0 .zero producers w).state).log ∨
        written.length < declared.length) := by
  have h0 : declared.length ≠ 0 := Nat.ne_of_gt hpos
  have hroom' : ¬payload.length - Announcement.size < declared.length := Nat.not_lt.2 hroom
  obtain ⟨e, he, hvalue, -⟩ := gather_of_fits hd h0 hroom
  refine ⟨e.value.1, by rw [hvalue], ?_⟩
  simp only [gather, Act.log_bind, hd, h0, if_false, List.length_drop, hroom', Log.warns_append,
    ← he]
  by_cases hshort : e.value.1.length < declared.length
  · simp [hshort]
  · simp [hshort]

theorem log_collect_of_located {roster : Roster ω π} {payload : Bytes} {w : ω}
    (h : Announcement.size ≤ payload.length) {producers : List π}
    (hl : (roster.locate w).value = .ok producers) :
    (collect roster payload w).log = (roster.locate w).log ++
      (gather roster producers payload (roster.locate w).state).log := by
  simp [collect, Nat.not_lt.2 h, hl]

/-- **A collection of given producers that comes to its second pass warns** of what the passes warn
of, and if fewer bytes were accepted than declared. -/
theorem gather_warned (roster : Roster ω π) (producers : List π) {payload : Bytes} {w : ω}
    {declared : Totals} (hd : (probe roster 0 .zero producers w).value = declared)
    (hpos : 0 < declared.length)
    (hroom : declared.length ≤ payload.length - Announcement.size) :
    ∃ probes fills written, (probe roster.noted 0 .zero producers (w, [])).state.2 = probes ∧
      (gather roster.noted producers payload (w, [])).state.2 = probes ++ fills ∧
      (gather roster producers payload w).value.result = .ok ⟨declared, written⟩ ∧
      written.length = (fills.map (·.taken)).sum ∧
      (Warns (gather roster.muted producers payload w).log ↔
        (∃ q ∈ probes, ∃ t, q.answer.outcome = .ok (.written t)) ∨
        ¬Fits (probes.filterMap (·.answer.size?)).sum ∨
        (∃ q ∈ fills, q.Failed) ∨ written.length < declared.length) := by
  obtain ⟨fills, after, htrace, -, -, hvalue⟩ := gather_filled roster producers hd hpos hroom
  obtain ⟨probes, hprobes, hprobed⟩ := warns_probe roster 0 .zero producers w []
  obtain ⟨hdnoted, hwnoted, -⟩ := probe_noted_projects roster 0 .zero producers w []
  obtain ⟨fills', hfills, hfilled⟩ := warns_fill roster 0
    (show Totals.zero.count < 2 ^ 64 by decide) (payload.drop Announcement.size) producers
    (probe roster.noted 0 .zero producers (w, [])).state.1
    (probe roster.noted 0 .zero producers (w, [])).state.2
  obtain ⟨e, he, -, hstate⟩ := gather_of_fits (hdnoted.trans hd) (Nat.ne_of_gt hpos) hroom
  obtain rfl : fills = fills' := by
    rw [hstate, he, hfills] at htrace
    exact (List.append_cancel_left htrace).symm
  rw [hprobes, List.nil_append] at htrace
  -- the muted run goes the same way, so its second pass is over the same region
  have hmuted (p : π) (d : Option Bytes) : Act.Quieter (roster.muted.ask p d) (roster.ask p d) :=
    .muted (roster.ask p d)
  obtain ⟨hdmuted, hwmuted, -⟩ := probe_compatible .quieter _ _ hmuted 0 .zero producers w
  obtain ⟨hreply, -, -⟩ := gather_compatible .quieter _ _ hmuted producers payload w
  obtain ⟨written, hresult, hwarns⟩ := warns_gather_of_fits (hdmuted.trans hd) hpos hroom
  rw [hwmuted, ← hwnoted, hfilled, hprobed fits_zero] at hwarns
  have hsame : (gather roster producers payload w).value.result = .ok ⟨declared, written⟩ :=
    hreply ▸ hresult
  have hlength : written.length = (fills.map (·.taken)).sum := by
    rw [hvalue] at hsame
    cases hsame
    rfl
  refine ⟨probes, fills, written, by rw [hprobes, List.nil_append], htrace, hsame, hlength, ?_⟩
  rw [hwarns, or_assoc, show Totals.zero = 0 from rfl, zero_add]

/-- A collection that ends well with bytes announced has found producers. -/
theorem located_of_ok {roster : Roster ω π} {payload : Bytes} {w : ω} {report : Collected}
    (hok : (collect roster payload w).value.result = .ok report)
    (hpos : 0 < report.declared.length) : ∃ producers, (roster.locate w).value = .ok producers := by
  have hsize := size_of_ok hok
  rcases hl : (roster.locate w).value with (_ | status) | producers
  · rw [(collect_of_notFound hsize hl).1, (gather_of_zero rfl payload rfl).1] at hok
    cases hok
    exact absurd hpos (Nat.lt_irrefl 0)
  · rw [(collect_of_unavailable hsize hl).1] at hok
    cases hok
  · exact ⟨producers, rfl⟩

/-- If others make up for a producer of which nothing is taken, one of them takes more than was
counted of it. -/
theorem exists_more_of_lost {fills : List (Query π)} {counted : Finset ℕ} {length : ℕ → ℕ}
    (hsub : counted ⊆ Finset.range fills.length)
    (hle : ∑ i ∈ counted, length i ≤ (fills.map (·.taken)).sum) {i : ℕ} (hi : i < fills.length)
    (hcounted : i ∈ counted) (hlost : fills[i].taken < length i) :
    ∃ j, ∃ hj : j < fills.length, (if j ∈ counted then length j else 0) < fills[j].taken := by
  by_contra hno
  have hall (j : Fin fills.length) : fills[j].taken ≤ if (j : ℕ) ∈ counted then length j else 0 :=
    Nat.le_of_not_lt fun hlt => hno ⟨j, j.2, hlt⟩
  have hsum : ∑ j : Fin fills.length, fills[j].taken = (fills.map (·.taken)).sum :=
    Fin.sum_univ_fun_getElem fills (·.taken)
  have hlt : ∑ j : Fin fills.length, fills[j].taken <
      ∑ j : Fin fills.length, if (j : ℕ) ∈ counted then length j else 0 :=
    Finset.sum_lt_sum (fun j _ => hall j)
      ⟨⟨i, hi⟩, Finset.mem_univ _, by simpa [hcounted] using hlost⟩
  have hcount : (∑ j : Fin fills.length, if (j : ℕ) ∈ counted then length j else 0) =
      ∑ i ∈ counted, length i := by
    rw [← Finset.sum_range (fun j => if j ∈ counted then length j else 0), Finset.sum_ite_mem,
      Finset.inter_eq_right.2 hsub]
  omega

/-- A collection that came to its second pass, by what it warns of: `probes` and `fills` are the
questions of its passes. -/
structure Watched (roster : Roster ω π) (payload : Bytes) (w : ω) (report : Collected)
    (probes fills : List (Query π)) : Prop where
  questions_eq : questions roster payload w = probes ++ fills
  asked : Asked (probes.map (·.producer)) report.declared (payload.length - Announcement.size)
    probes fills
  tallied : Tallied probes (countedPlaces probes) report.declared
  /-- The collection itself warns just of these: a producer that reports to have written when it is
  asked for its size, sizes that do not fit together, a producer that fails to write, and fewer
  bytes than were declared. -/
  warns_iff : Warns (collect roster.muted payload w).log ↔
    (∃ q ∈ probes, ∃ t, q.answer.outcome = .ok (.written t)) ∨
    ¬Fits (probes.filterMap (·.answer.size?)).sum ∨
    (∃ q ∈ fills, q.Failed) ∨ report.written.length < report.declared.length
  /-- What it reports is among what is reported in all. -/
  reported : (collect roster.muted payload w).log.Sublist (collect roster payload w).log
  /-- If nothing is accepted of a producer that was counted with bytes, then there is a warning, or
  it answered with a size without descriptors or without bytes, and more bytes were accepted of
  another producer than were counted of that one. -/
  lost : ∀ i ∈ countedPlaces probes, 0 < ((sizeAt probes i).getD 0).length →
    ∀ hi : i < fills.length, fills[i].accepted = none →
      Warns (collect roster payload w).log ∨
      (∃ t, fills[i].answer.outcome = .ok (.sizeOnly t) ∧ (t.count = 0 ∨ t.length = 0)) ∧
        ∃ j, ∃ hj : j < fills.length,
          (if j ∈ countedPlaces probes then ((sizeAt probes j).getD 0).length else 0) <
            fills[j].taken

/-- **When a collection warns.**  Over every roster, and whatever the producers do and report: if a
collection came to its second pass, then it is known what it warns of, and a producer of which
descriptors were lost goes without a warning only if it answers with an empty size, and others take
its room. -/
theorem collect_warned {roster : Roster ω π} {payload : Bytes} {w : ω} {report : Collected}
    (hok : (collect roster payload w).value.result = .ok report)
    (hpos : 0 < report.declared.length) :
    ∃ probes fills, Watched roster payload w report probes fills := by
  have hsize := size_of_ok hok
  obtain ⟨producers, hl⟩ := located_of_ok hok hpos
  have hfound : roster.Finds w producers := .inl hl
  obtain ⟨probes, hprobes, hprobed, -, htallied⟩ :=
    probe_tallied roster producers (roster.locate w).state
  obtain ⟨probes', fills, hprobes', hquestions, hasked, hconcluded⟩ :=
    collect_concluded hsize hfound rfl
  obtain rfl : probes = probes' := hprobes.symm.trans hprobes'
  obtain ⟨hdeclared, hroom⟩ := hconcluded.of_ok hok
  rw [← hdeclared] at htallied hasked hroom
  obtain ⟨probes', fills', written, hprobes', htrace, hresult, hlength, hwarns⟩ :=
    gather_warned roster producers hdeclared.symm hpos hroom
  obtain rfl : probes = probes' := hprobes.symm.trans hprobes'
  have hnoted : roster.noted.Finds (w, []) producers := hfound
  obtain rfl : fills = fills' := by
    rw [questions, (collect_of_found hsize hnoted).2] at hquestions
    exact List.append_cancel_left (hquestions.symm.trans htrace)
  rw [(collect_of_found hsize hfound).1, hresult] at hok
  obtain rfl : written = report.written := congrArg Collected.written (Except.ok.inj hok)
  have hl' : (roster.muted.locate w).value = .ok producers := hl
  have hlog : (collect roster.muted payload w).log =
      (gather roster.muted producers payload (roster.locate w).state).log :=
    log_collect_of_located hsize hl'
  have hreported := (collect_muted roster payload w).2.2
  rw [← hprobed] at hasked
  rw [← hlog] at hwarns
  refine ⟨probes, fills, hquestions, hasked, htallied, hwarns, hreported, ?_⟩
  intro i hi hbytes hlt hnone
  by_cases hfailed : fills[i].Failed
  · have hthird := hwarns.2 (.inr (.inr (.inl ⟨fills[i], List.getElem_mem hlt, hfailed⟩)))
    exact .inl (hthird.mono hreported)
  by_cases hshort : report.written.length < report.declared.length
  · exact .inl ((hwarns.2 (.inr (.inr (.inr hshort)))).mono hreported)
  right
  constructor
  · simp only [Query.Failed, hnone, true_and, not_forall, not_not] at hfailed
    obtain ⟨t, houtcome, hempty⟩ := hfailed
    exact ⟨t, houtcome, by simpa [Totals.isEmpty] using hempty⟩
  · have hasks := congrArg List.length (hasked.filled hpos hroom)
    rw [List.length_map, List.length_map] at hasks
    have hsub : countedPlaces probes ⊆ Finset.range fills.length := by
      rw [hasks]
      exact (countedBefore_subset _ _).trans (Finset.filter_subset _ _)
    have hle : ∑ i ∈ countedPlaces probes, ((sizeAt probes i).getD 0).length ≤
        (fills.map (·.taken)).sum := by
      rw [← htallied.length_eq, ← hlength]
      exact Nat.le_of_not_lt hshort
    have hlost : fills[i].taken < ((sizeAt probes i).getD 0).length := by
      rw [(taken_eq_zero hnone).1]
      exact hbytes
    exact exists_more_of_lost hsub hle hlt hi hlost

/-- A producer that writes more than it told, and one that then has no room left for its two bytes,
of which it counts no descriptor. -/
def crowding : Roster Unit Bool where
  locate := pure (.ok [true, false])
  ask first destination :=
    match first, destination with
    | true, none => pure ⟨.ok (.sizeOnly ⟨1, 2⟩), []⟩
    | true, some _ => pure ⟨.ok (.written ⟨1, 4⟩), [1, 2, 3, 4]⟩
    | false, _ => pure (FixedSources.answer ⟨[5, 6], 0⟩ destination)

theorem collect_warned_crowding :
    (collect crowding (Bytes.zeros 20) ()).value.result = .ok ⟨⟨1, 4⟩, ⟨1, 4⟩⟩ ∧
    ∃ probes fills, Watched crowding (Bytes.zeros 20) () ⟨⟨1, 4⟩, ⟨1, 4⟩⟩ probes fills := by
  have hok : (collect crowding (Bytes.zeros 20) ()).value.result = .ok ⟨⟨1, 4⟩, ⟨1, 4⟩⟩ := rfl
  exact ⟨hok, collect_warned hok (by decide)⟩

/-- **Descriptors can be lost without a warning**: here nothing is accepted of the second producer,
whose two bytes were declared. -/
theorem lost_unreported : ¬∀ (ω π : Type) (roster : Roster ω π) (payload : Bytes) (w : ω)
    (report : Collected) (probes fills : List (Query π)),
    (collect roster payload w).value.result = .ok report → 0 < report.declared.length →
    questions roster payload w = probes ++ fills → fills.length = probes.length →
    ∀ i ∈ countedPlaces probes, 0 < ((sizeAt probes i).getD 0).length →
      ∀ hi : i < fills.length, fills[i].accepted = none →
        Warns (collect roster payload w).log := by
  intro h
  let asked := questions crowding (Bytes.zeros 20) ()
  have hwarns := h Unit Bool crowding (Bytes.zeros 20) () ⟨⟨1, 4⟩, ⟨1, 4⟩⟩ (asked.take 2)
    (asked.drop 2) rfl (by decide) (List.take_append_drop 2 asked).symm rfl 1 (by decide)
    (by decide) (by decide) rfl
  revert hwarns
  decide

end Collection

end Hest
