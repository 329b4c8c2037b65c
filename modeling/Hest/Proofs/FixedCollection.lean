import Hest.Build
import Hest.Proofs.ProducerRoles

/-!
# Collecting fixed descriptors

Producers whose descriptors are fixed report the same totals in both passes, and write what they
report if there is room for it.

* `counted` are the producers that the first pass counts, `fitting` those that write in the second;
  `probe_counted` and `Passed.fitted` show this of the passes.
* If the totals fit in 64 bits together, all are counted and write, so the request is refused only
  for want of room (`answer_of_room`, `answer_of_no_room`).
* Else each pass decides on its own whom it leaves out, and a producer that was not counted still
  writes: `collect_fixed_passes` says what a collection holds, and `skipped_displaces` that this
  need not be what was counted.
-/

namespace Hest

namespace FixedSources

/-- The descriptors of several producers, one after another. -/
def joined (sources : List FixedSources) : Bytes := sources.flatMap (·.descriptors)

/-- The sums of the counts and of the lengths of several producers. -/
def sums (sources : List FixedSources) : Totals :=
  ⟨(sources.map (·.count)).sum, (sources.map (·.descriptors.length)).sum⟩

@[simp] theorem joined_cons (p : FixedSources) (ps : List FixedSources) :
    joined (p :: ps) = p.descriptors ++ joined ps := rfl

@[simp] theorem sums_cons (p : FixedSources) (ps : List FixedSources) :
    sums (p :: ps) = ⟨p.count + (sums ps).count, p.descriptors.length + (sums ps).length⟩ := rfl

theorem joined_append (ps qs : List FixedSources) : joined (ps ++ qs) = joined ps ++ joined qs :=
  List.flatMap_append

theorem sums_append (ps qs : List FixedSources) : sums (ps ++ qs) =
    ⟨(sums ps).count + (sums qs).count, (sums ps).length + (sums qs).length⟩ := by
  simp [sums]

@[simp] theorem length_joined (sources : List FixedSources) :
    (joined sources).length = (sums sources).length := by
  simp [joined, sums, List.length_flatMap]

theorem sum_totals (sources : List FixedSources) :
    (sources.filterMap fun s => some s.totals).sum = sums sources := by
  induction sources with
  | nil => rfl
  | cons p ps ih => exact congrArg (p.totals + ·) ih

/-! ## Whom the passes take -/

/-- The producers that are counted: each in turn, if its totals still fit in the sums. -/
def counted (sources : List FixedSources) : List FixedSources :=
  Collection.admitted (fun s => some s.totals) 0 sources

/-- All are counted if their sums fit. -/
theorem counted_of_fits {sources : List FixedSources} (h : Collection.Fits (sums sources)) :
    counted sources = sources := by
  have hsum : Collection.Fits (0 + (sources.filterMap fun s => some s.totals).sum) := by
    rw [zero_add, sum_totals]
    exact h
  rw [counted, Collection.admitted_of_fits hsum]
  exact List.filter_true sources

/-- The producers that write into so much room: each in turn, if what is left is enough for it. -/
def fitting : Nat → List FixedSources → List FixedSources
  | _, [] => []
  | room, p :: ps =>
    if p.descriptors.length ≤ room then p :: fitting (room - p.descriptors.length) ps
    else fitting room ps

/-- The first producers all write if there is room for them. -/
theorem fitting_append {room : Nat} {front : List FixedSources} (h : (sums front).length ≤ room)
    (back : List FixedSources) :
    fitting room (front ++ back) = front ++ fitting (room - (sums front).length) back := by
  induction front generalizing room with
  | nil => rfl
  | cons p ps ih =>
    rw [sums_cons] at h ⊢
    have hp : p.descriptors.length ≤ room := Nat.le_of_add_right_le h
    have hps : (sums ps).length ≤ room - p.descriptors.length := Nat.le_sub_of_add_le' h
    rw [List.cons_append, fitting, if_pos hp, ih hps, Nat.sub_sub]
    rfl

/-- All write if there is room for all. -/
theorem fitting_of_le {room : Nat} {sources : List FixedSources}
    (h : (sums sources).length ≤ room) : fitting room sources = sources := by
  have hall := fitting_append h []
  rwa [List.append_nil, fitting, List.append_nil] at hall

end FixedSources

namespace Collection

open FixedSources

/-! ## The passes -/

/-- **The second pass lays what fits one after another.** -/
theorem Passed.fitted {region after : Bytes} {fills : List (Query FixedSources)}
    (h : Passed region fills after)
    (hanswers : ∀ q ∈ fills, q.answer = q.producer.answer q.destination) :
    after = joined (fitting region.length (fills.map (·.producer))) ++
      region.drop (joined (fitting region.length (fills.map (·.producer)))).length := by
  induction h with
  | done => rfl
  | @next region q qs rest hd _ ih =>
    obtain ⟨hanswer, hqs⟩ := List.forall_mem_cons.1 hanswers
    have hrest := ih hqs
    rw [List.map_cons, fitting]
    by_cases hfits : q.producer.descriptors.length ≤ region.length
    · have hplays := q.producer.plays_honest q.destination
      rw [← hanswer] at hplays
      obtain ⟨-, -, htake, hdrop⟩ := taken_of_plays hd hplays hfits
      rw [hdrop, List.length_drop, List.drop_drop] at hrest
      rw [if_pos hfits, joined_cons, List.length_append, List.append_assoc, htake, hrest]
      rfl
    · have hplays := q.producer.plays_failing hfits
      rw [← hd, ← hanswer] at hplays
      obtain ⟨-, -, htake, hdrop⟩ := taken_of_plays hd hplays (Nat.zero_le _)
      rw [hdrop] at hrest
      rw [if_neg hfits, htake, hrest]
      rfl

/-- The first pass announces those that it counts. -/
theorem probe_counted (sources : List FixedSources) (r : Registry FixedSources) :
    (probe Build.roster 0 .zero sources r).value = sums (counted sources) := by
  have hsizes : ∀ p ∈ sources, ∀ v, (Build.roster.ask p none v).value.size? = some p.totals :=
    fun _ _ _ => rfl
  rw [probe_of_sizes hsizes, sum_totals]
  exact zero_add _

/-! ## The collection -/

/-- Fixed producers leave the registry alone. -/
theorem state_gather_fixed (sources : List FixedSources) (payload : Bytes)
    (r : Registry FixedSources) : (gather Build.roster sources payload r).state = r :=
  gather_compatible (.keeps (· = r)) Build.roster Build.roster (fun _ _ _ h => h) sources payload
    r rfl

/-- An empty registry is collected like any other. -/
theorem collect_fixed {payload : Bytes} (h : Announcement.size ≤ payload.length)
    (r : Registry FixedSources) :
    (collect Build.roster payload r).value = (gather Build.roster r.producers payload r).value ∧
      (collect Build.roster payload r).state = r := by
  have hlocated : (Build.roster.locate r).value = r.locate := rfl
  obtain ⟨hvalue, hstate⟩ := collect_of_registry h hlocated rfl
  exact ⟨hvalue, hstate.trans (state_gather_fixed r.producers payload r)⟩

/-- A collection that comes to its second pass holds the descriptors of those that fit. -/
theorem gather_fitted {sources : List FixedSources} {payload : Bytes}
    (hpos : 0 < (sums (counted sources)).length)
    (hroom : (sums (counted sources)).length ≤ payload.length - Announcement.size)
    (r : Registry FixedSources) :
    ∃ report, (gather Build.roster sources payload r).value = ⟨.ok report,
      (Announcement.ofTotals (sums (counted sources))).encode ++
        (joined (fitting (payload.length - Announcement.size) sources) ++
          (payload.drop Announcement.size).drop
            (joined (fitting (payload.length - Announcement.size) sources)).length)⟩ := by
  obtain ⟨fills, after, htrace, hfilled, hpassed, hvalue⟩ :=
    gather_filled Build.roster sources (probe_counted sources r) hpos hroom
  have hanswers : ∀ q ∈ fills, q.answer = q.producer.answer q.destination := by
    intro q hq
    have hmem : q ∈ (gather Build.roster.noted sources payload (r, [])).state.2 := by
      rw [htrace]
      exact List.mem_append_right _ hq
    obtain ⟨v, ha⟩ := gather_given Build.roster sources payload r q hmem
    exact ha
  have hafter := hpassed.fitted hanswers
  rw [hfilled, List.length_drop] at hafter
  exact ⟨_, by rw [hvalue, hafter]⟩

section
variable {r : Registry FixedSources} (hfits : Fits (sums r.producers))
include hfits

theorem probe_producers : (probe Build.roster 0 .zero r.producers r).value = sums r.producers := by
  rw [probe_counted, counted_of_fits hfits]

variable {payload : Bytes}

theorem gather_of_room
    (hroom : (sums r.producers).length ≤ payload.length - Announcement.size) :
    ∃ report, (gather Build.roster r.producers payload r).value = ⟨.ok report,
      (Announcement.ofTotals (sums r.producers)).encode ++ (joined r.producers ++
        (payload.drop Announcement.size).drop (sums r.producers).length)⟩ := by
  by_cases h0 : (sums r.producers).length = 0
  · have hnone : joined r.producers = [] :=
      List.eq_nil_of_length_eq_zero (by rw [length_joined, h0])
    refine ⟨⟨sums r.producers, .zero⟩, ?_⟩
    rw [(gather_of_zero (probe_producers hfits) payload h0).1, hnone, h0]
    rfl
  · have hcounted := counted_of_fits hfits
    have hpos : 0 < (sums (counted r.producers)).length := by
      rw [hcounted]
      exact Nat.pos_of_ne_zero h0
    obtain ⟨report, hvalue⟩ := gather_fitted hpos (by rwa [hcounted]) r
    rw [hcounted, fitting_of_le hroom, length_joined] at hvalue
    exact ⟨report, hvalue⟩

variable (hsize : Announcement.size ≤ payload.length)
include hsize

theorem answer_of_room
    (hroom : (sums r.producers).length ≤ payload.length - Announcement.size) :
    (answer Build.roster payload r).value = ⟨.ok (),
      (Announcement.ofTotals (sums r.producers)).encode ++ (joined r.producers ++
        (payload.drop Announcement.size).drop (sums r.producers).length)⟩ ∧
    (answer Build.roster payload r).state = r := by
  obtain ⟨report, hgather⟩ := gather_of_room hfits hroom
  obtain ⟨hvalue, hstate⟩ := collect_fixed hsize r
  rw [hgather] at hvalue
  obtain ⟨hanswer, hkept⟩ := answer_of_ok (congrArg InPlace.result hvalue)
  exact ⟨by rw [hanswer, hvalue], by rw [hkept, hstate]⟩

theorem answer_of_no_room
    (hroom : payload.length - Announcement.size < (sums r.producers).length) :
    (answer Build.roster payload r).value = ⟨.error .bufferTooSmall,
      (Announcement.ofTotals (sums r.producers)).encode ++ payload.drop Announcement.size⟩ ∧
    (answer Build.roster payload r).state = r := by
  obtain ⟨hvalue, hstate⟩ := collect_fixed hsize r
  rw [(gather_of_small (probe_producers hfits) hroom).1] at hvalue
  obtain ⟨hanswer, hkept⟩ := answer_of_error (congrArg InPlace.result hvalue)
  exact ⟨by rw [hanswer, hvalue]; rfl, by rw [hkept, hstate]⟩

end

/-! ## Producers that are left out -/

/-- **What a collection of fixed producers announces, and what it holds.**  If it ends well and
announces bytes, it announces the sums of those that were counted, and behind the announcement stand
the descriptors of those that fit.  These begin with the descriptors that were counted, as long as
what was counted is what the first producers hold; it is if none was left out. -/
theorem collect_fixed_passes {r : Registry FixedSources} {payload : Bytes} {report : Collected}
    (hok : (collect Build.roster payload r).value.result = .ok report)
    (hpos : 0 < report.declared.length) :
    let buffer := (collect Build.roster payload r).value.buffer
    let written := joined (fitting (payload.length - Announcement.size) r.producers)
    report.declared = sums (counted r.producers) ∧
    buffer.drop Announcement.size = written ++ payload.drop (Announcement.size + written.length) ∧
    ∀ front back, r.producers = front ++ back → joined (counted r.producers) = joined front →
      buffer.window Announcement.size report.declared.length = joined (counted r.producers) := by
  have hsize := size_of_ok hok
  rw [(collect_fixed hsize r).1] at hok ⊢
  obtain ⟨hroom, written, hresult⟩ | ⟨-, hresult⟩ :=
    gather_declares Build.roster r.producers payload r rfl
  · obtain rfl : report = ⟨_, written⟩ := Except.ok.inj (hok.symm.trans hresult)
    have hdeclared := probe_counted r.producers r
    rw [hdeclared] at hpos hroom ⊢
    obtain ⟨_, hvalue⟩ := gather_fitted hpos hroom r
    rw [List.drop_drop] at hvalue
    have hregion := congrArg (·.buffer.drop Announcement.size) hvalue
    simp only [List.drop_left' (Announcement.length_encode _)] at hregion
    refine ⟨rfl, hregion, fun front back hsplit hjoined => ?_⟩
    have hlength : (sums (counted r.producers)).length = (sums front).length := by
      rw [← length_joined, hjoined, length_joined]
    -- the first producers have room, since what was announced is as long as what they hold
    rw [hlength] at hroom
    rw [Bytes.window, hregion, hsplit, fitting_append hroom, joined_append, List.append_assoc,
      ← hsplit, hlength, hjoined]
    exact List.take_left' (length_joined front)
  · rw [hok] at hresult
    cases hresult

/-- Three fixed producers of one byte each, of which the last is left out: the count of the first is
as large as a count can be. -/
def skippedLast : Registry FixedSources :=
  ⟨3, [(⟨0⟩, ⟨[1], 2 ^ 64 - 1⟩), (⟨1⟩, ⟨[3], 0⟩), (⟨2⟩, ⟨[2], 5⟩)]⟩

theorem collect_fixed_passes_last :
    (collect Build.roster (Bytes.zeros 18) skippedLast).value.buffer.window Announcement.size 2 =
      joined (counted skippedLast.producers) := by
  have hok : (collect Build.roster (Bytes.zeros 18) skippedLast).value.result =
      .ok ⟨⟨2 ^ 64 - 1, 2⟩, ⟨2 ^ 64 - 1, 2⟩⟩ := by decide +kernel
  exact (collect_fixed_passes hok (by decide)).2.2 [⟨[1], 2 ^ 64 - 1⟩, ⟨[3], 0⟩] [⟨[2], 5⟩] rfl
    (by decide +kernel)

/-- The same producers, but the one that is left out stands before another. -/
def skippedBetween : Registry FixedSources :=
  ⟨3, [(⟨0⟩, ⟨[1], 2 ^ 64 - 1⟩), (⟨1⟩, ⟨[2], 5⟩), (⟨2⟩, ⟨[3], 0⟩)]⟩

/-- **The descriptors of a collection need not be those that were counted**: here the second
producer writes its byte where that of the third one belongs. -/
theorem skipped_displaces : ¬∀ (r : Registry FixedSources) (payload : Bytes) (report : Collected),
    (collect Build.roster payload r).value.result = .ok report → 0 < report.declared.length →
      (collect Build.roster payload r).value.buffer.window Announcement.size
        report.declared.length = joined (counted r.producers) := by
  intro h
  have hcounted := h skippedBetween (Bytes.zeros 18) ⟨⟨2 ^ 64 - 1, 2⟩, ⟨2 ^ 64 - 1, 2⟩⟩
    (by decide +kernel) (by decide)
  revert hcounted
  decide +kernel

end Collection

end Hest
