import Hest.Proofs.ProbePass
import Hest.Proofs.Snapshot

/-!
# How a collection ends

A request is sized in two steps: one that is too small is refused with the bytes that it needs, and
the next one can be of that size.  What a collection did to the payload before it ended, and whom it
asked, depends on how it ended.

* `Passed.exists_writer`: a byte of the room changes only if a producer changes it.
* `probe_congr`: the totals depend on the sizes that were told, and on nothing else.
* `Concluded` says what a collection of given producers leaves, `gather_concluded` that it does.
* `collect_ends` lists the endings of a collection over any roster, and what a second request
  comes to.
-/

namespace Hest.Collection

open LittleEndian

variable {ω π : Type}

/-! ## What changes in the room -/

/-- **A byte changes only if a producer changes it** in the slice that it is handed. -/
theorem Passed.exists_writer {region after : Bytes} {qs : List (Query π)}
    (h : Passed region qs after) {j : Nat} (hj : after[j]? ≠ region[j]?) :
    ∃ i, ∃ hi : i < qs.length, ∃ d, qs[i].destination = some d ∧
      cursor qs i + d.length = region.length ∧ cursor qs i ≤ j ∧
      qs[i].left[j - cursor qs i]? ≠ d[j - cursor qs i]? := by
  induction h generalizing j with
  | done => exact absurd rfl hj
  | @next region q qs rest hd hrest ih =>
    -- either the first producer changed the byte, or it is as it left it, and a later one did
    by_cases hfirst : q.left[j]? = region[j]?
    · rw [← hfirst] at hj
      have htaken : q.taken ≤ j := by
        refine Nat.le_of_not_lt fun hlt => hj ?_
        rw [List.getElem?_append_left (by rwa [length_take_taken]), List.getElem?_take_of_lt hlt]
      have hlater : rest[j - q.taken]? ≠ (q.left.drop q.taken)[j - q.taken]? := by
        rwa [List.getElem?_append_right (by rwa [length_take_taken]), length_take_taken,
          ← Nat.add_sub_cancel' htaken, ← List.getElem?_drop, Nat.add_sub_cancel' htaken] at hj
      obtain ⟨i, hi, d, hdest, hlength, hle, hchanged⟩ := ih hlater
      refine ⟨i + 1, Nat.succ_lt_succ hi, d, hdest, ?_, ?_, ?_⟩
      · have hleft := q.taken_le
        rw [List.length_drop, length_left hd] at hlength
        rw [length_left hd] at hleft
        rw [cursor_cons]
        omega
      · rw [cursor_cons]
        omega
      · rw [cursor_cons, ← Nat.sub_sub]
        exact hchanged
    · exact ⟨0, Nat.zero_lt_succ _, region, hd, Nat.zero_add _, Nat.zero_le j, hfirst⟩

/-! ## What the totals depend on -/

/-- **The totals depend on the sizes that are told**, place by place, and on nothing else. -/
theorem probe_congr {roster : Roster ω π} {producers producers' : List π} {w w' : ω}
    (h : (probe roster.noted 0 .zero producers (w, [])).state.2.map (·.answer.size?) =
      (probe roster.noted 0 .zero producers' (w', [])).state.2.map (·.answer.size?)) :
    (probe roster 0 .zero producers w).value = (probe roster 0 .zero producers' w').value := by
  have hsizes (producers : List π) (w : ω) : (probe roster 0 .zero producers w).value =
      .zero + ((admitted id .zero ((probe roster.noted 0 .zero producers (w, [])).state.2.map
        (·.answer.size?))).filterMap id).sum := by
    obtain ⟨queries, hs, -, -, hvalue⟩ := probe_admitted roster 0 .zero producers w []
    rw [hvalue, hs, List.nil_append,
      admitted_map (f := fun q : Query π => q.answer.size?) (fun _ _ => rfl), List.filterMap_map]
    rfl
  rw [hsizes, hsizes, h]

/-- The questions of a collection. -/
def questions (roster : Roster ω π) (payload : Bytes) (w : ω) : List (Query π) :=
  (collect roster.noted payload (w, [])).state.2

/-- What producers answered that were asked for their sizes. -/
def sizeAnswers (qs : List (Query π)) : List (Except Status Report) :=
  (qs.filter (·.destination.isNone)).map (·.answer.outcome)

theorem Asked.filter_isNone {producers : List π} {declared : Totals} {room : Nat}
    {probes fills : List (Query π)} (h : Asked producers declared room probes fills) :
    (probes ++ fills).filter (·.destination.isNone) = probes := by
  have hprobes : probes.filter (·.destination.isNone) = probes :=
    List.filter_eq_self.2 fun q hq => by rw [h.unhanded q hq]; rfl
  have hfills : fills.filter (·.destination.isNone) = [] := by
    refine List.filter_eq_nil_iff.2 fun q hq => ?_
    obtain ⟨d, hd⟩ := Option.isSome_iff_exists.1 (h.handed q hq)
    rw [hd]
    exact Bool.false_ne_true
  rw [List.filter_append, hprobes, hfills, List.append_nil]

/-! ## The endings -/

/-- How a collection of producers that were found ends.  `declared` are the totals of the first
pass, and `fills` the questions of the second. -/
structure Concluded (payload : Bytes) (declared : Totals) (fills : List (Query π))
    (reply : InPlace CollectError Collected) : Prop where
  fits : Fits declared
  /-- The totals are always announced. -/
  announced : reply.buffer.take Announcement.size =
    encode 8 declared.count ++ encode 8 declared.length
  /-- Without room for the descriptors the request is refused, no producer is handed a destination,
  and nothing else is changed. -/
  refused : payload.length - Announcement.size < declared.length →
    reply.result =
        .error (.bufferTooSmall declared.length (payload.length - Announcement.size)) ∧
      reply.buffer.drop Announcement.size = payload.drop Announcement.size ∧ fills = []
  /-- Else it succeeds, and its report has these totals. -/
  collected : declared.length ≤ payload.length - Announcement.size →
    ∃ written, reply.result = .ok ⟨declared, written⟩
  /-- A byte behind the announcement changes only if a producer changes it in the slice that it is
  handed. -/
  changed : ∀ j, reply.buffer[Announcement.size + j]? ≠ payload[Announcement.size + j]? →
    ∃ i, ∃ hi : i < fills.length, ∃ d, fills[i].destination = some d ∧
      cursor fills i + d.length = payload.length - Announcement.size ∧ cursor fills i ≤ j ∧
      fills[i].left[j - cursor fills i]? ≠ d[j - cursor fills i]?

theorem Concluded.of_ok {payload : Bytes} {declared : Totals} {fills : List (Query π)}
    {reply : InPlace CollectError Collected} (h : Concluded payload declared fills reply)
    {report : Collected} (hok : reply.result = .ok report) :
    report.declared = declared ∧ declared.length ≤ payload.length - Announcement.size := by
  by_cases hroom : declared.length ≤ payload.length - Announcement.size
  · obtain ⟨written, hresult⟩ := h.collected hroom
    rw [hok] at hresult
    cases hresult
    exact ⟨rfl, hroom⟩
  · rw [(h.refused (Nat.lt_of_not_le hroom)).1] at hok
    cases hok

theorem Concluded.of_tooSmall {payload : Bytes} {declared : Totals} {fills : List (Query π)}
    {reply : InPlace CollectError Collected} (h : Concluded payload declared fills reply)
    {required available : Nat}
    (hrefused : reply.result = .error (.bufferTooSmall required available)) :
    required = declared.length := by
  by_cases hroom : declared.length ≤ payload.length - Announcement.size
  · obtain ⟨written, hresult⟩ := h.collected hroom
    rw [hresult] at hrefused
    cases hrefused
  · rw [(h.refused (Nat.lt_of_not_le hroom)).1] at hrefused
    cases hrefused
    rfl

theorem concluded_of_passed {payload after : Bytes} {declared : Totals} {fills : List (Query π)}
    {result : Except CollectError Collected} (hfits : Fits declared)
    (hpassed : Passed (payload.drop Announcement.size) fills after)
    (hrefused : payload.length - Announcement.size < declared.length → result =
        .error (.bufferTooSmall declared.length (payload.length - Announcement.size)) ∧ fills = [])
    (hcollected : declared.length ≤ payload.length - Announcement.size →
      ∃ written, result = .ok ⟨declared, written⟩) :
    Concluded payload declared fills
      ⟨result, (Announcement.ofTotals declared).encode ++ after⟩ := by
  have hencode := (Announcement.ofTotals declared).length_encode
  refine ⟨hfits, ?_, fun hsmall => ?_, hcollected, fun j hj => ?_⟩
  · rw [← encode_ofTotals hfits]
    exact List.take_left' hencode
  · obtain ⟨hresult, rfl⟩ := hrefused hsmall
    cases hpassed
    exact ⟨hresult, List.drop_left' hencode, rfl⟩
  · rw [← List.length_drop]
    refine hpassed.exists_writer ?_
    rw [List.getElem?_drop]
    rwa [List.getElem?_append_right (by omega), hencode, Nat.add_sub_cancel_left] at hj

/-- **How a collection of given producers ends.** -/
theorem gather_concluded (roster : Roster ω π) (producers : List π) (payload : Bytes) (w : ω)
    {declared : Totals} (hd : (probe roster 0 .zero producers w).value = declared) :
    ∃ probes fills, (probe roster.noted 0 .zero producers (w, [])).state.2 = probes ∧
      (gather roster.noted producers payload (w, [])).state.2 = probes ++ fills ∧
      Asked producers declared (payload.length - Announcement.size) probes fills ∧
      Concluded payload declared fills (gather roster producers payload w).value := by
  obtain ⟨probes, fills, hprobes, htrace, hasked⟩ := gather_asked roster producers payload w hd
  have hfits : Fits declared := hd ▸ fits_probe roster 0 fits_zero producers w
  refine ⟨probes, fills, hprobes, htrace, hasked, ?_⟩
  by_cases h0 : declared.length = 0
  · rw [(gather_of_zero hd payload h0).1, hasked.unfilled (by omega)]
    exact concluded_of_passed hfits .done (fun hsmall => by omega) fun _ => ⟨_, rfl⟩
  by_cases hroom : payload.length - Announcement.size < declared.length
  · rw [(gather_of_small hd hroom).1, hasked.unfilled (by omega)]
    exact concluded_of_passed hfits .done (fun _ => ⟨rfl, rfl⟩) fun hle => by omega
  · obtain ⟨fills', after, htrace', -, hpassed, hvalue⟩ :=
      gather_filled roster producers hd (Nat.pos_of_ne_zero h0) (Nat.le_of_not_lt hroom)
    rw [htrace, hprobes] at htrace'
    obtain rfl : fills = fills' := List.append_cancel_left htrace'
    rw [hvalue]
    exact concluded_of_passed hfits hpassed (fun hsmall => absurd hsmall hroom) fun _ => ⟨_, rfl⟩

theorem collect_of_short {roster : Roster ω π} {payload : Bytes} {w : ω}
    (h : payload.length < Announcement.size) :
    collect roster payload w = ⟨⟨.error .invalidBuffer, payload⟩, w, []⟩ := by
  rw [collect, if_pos h]
  rfl

/-- A collection of producers that were found. -/
theorem collect_concluded {roster : Roster ω π} {payload : Bytes} {w : ω} {producers : List π}
    (hsize : Announcement.size ≤ payload.length) (hfound : roster.Finds w producers)
    {declared : Totals}
    (hd : (probe roster 0 .zero producers (roster.locate w).state).value = declared) :
    ∃ probes fills,
      (probe roster.noted 0 .zero producers ((roster.locate w).state, [])).state.2 = probes ∧
      questions roster payload w = probes ++ fills ∧
      Asked producers declared (payload.length - Announcement.size) probes fills ∧
      Concluded payload declared fills (collect roster payload w).value := by
  obtain ⟨probes, fills, hprobes, htrace, hasked, hconcluded⟩ :=
    gather_concluded roster producers payload (roster.locate w).state hd
  have hnoted : roster.noted.Finds (w, []) producers := hfound
  refine ⟨probes, fills, hprobes, ?_, hasked, ?_⟩
  · rw [questions, (collect_of_found hsize hnoted).2]
    exact htrace
  · rw [(collect_of_found hsize hfound).1]
    exact hconcluded

/-- **How a collection ends**, over every roster and with every payload:

* a payload without room for the announcement is refused at once: nobody is consulted;
* producers that cannot be looked up are the end, and the payload is as it was;
* else the totals that the first pass over the producers found comes to are announced, and the
  collection succeeds just if there is room for the bytes that they tell.

A request that was refused for want of room can be made again: if the same producers are found and
tell the same sizes, it succeeds just with the bytes that the refusal asked for, whatever else the
producers do. -/
theorem collect_ends (roster : Roster ω π) (payload : Bytes) (w : ω) :
    (payload.length < Announcement.size →
      collect roster payload w = ⟨⟨.error .invalidBuffer, payload⟩, w, []⟩ ∧
        questions roster payload w = []) ∧
    (Announcement.size ≤ payload.length →
      (∀ status, (roster.locate w).value = .error (.unavailable status) →
        (collect roster payload w).value = ⟨.error (.lookup status), payload⟩ ∧
          (collect roster payload w).state = (roster.locate w).state ∧
          questions roster payload w = []) ∧
      ∀ producers, roster.Finds w producers →
        let declared := (probe roster 0 .zero producers (roster.locate w).state).value
        ∃ probes fills, questions roster payload w = probes ++ fills ∧
          Asked producers declared (payload.length - Announcement.size) probes fills ∧
          Concluded payload declared fills (collect roster payload w).value ∧
          ∀ required available,
            (collect roster payload w).value.result = .error (.bufferTooSmall required available) →
            ∀ payload' w', roster.Finds w' producers →
              sizeAnswers (questions roster payload' w') =
                sizeAnswers (questions roster payload w) →
              (Announcement.size + required ≤ payload'.length ↔ ∃ written,
                (collect roster payload' w').value.result = .ok ⟨declared, written⟩)) := by
  refine ⟨fun hshort => ?_, fun hsize => ⟨fun status hl => ?_, fun producers hfound => ?_⟩⟩
  · refine ⟨collect_of_short hshort, ?_⟩
    rw [questions, collect_of_short hshort]
  · obtain ⟨hvalue, hstate⟩ := collect_of_unavailable hsize hl
    have hnoted : (roster.noted.locate (w, [])).value = .error (.unavailable status) := hl
    refine ⟨hvalue, hstate, ?_⟩
    rw [questions, (collect_of_unavailable hsize hnoted).2]
    rfl
  · intro declared
    obtain ⟨probes, fills, hprobes, htrace, hasked, hconcluded⟩ :=
      collect_concluded hsize hfound (rfl : _ = declared)
    refine ⟨probes, fills, htrace, hasked, hconcluded, ?_⟩
    intro required available hrefused payload' w' hfound' hsame
    by_cases hshort : payload'.length < Announcement.size
    · rw [collect_of_short hshort]
      exact iff_of_false (by omega) fun ⟨_, hok⟩ => by cases hok
    have hsize' := Nat.le_of_not_lt hshort
    obtain ⟨probes', fills', hprobes', htrace', hasked', hconcluded'⟩ :=
      collect_concluded hsize' hfound' rfl
    -- the same answers make the same totals, and these decide
    rw [htrace, htrace', sizeAnswers, sizeAnswers, hasked.filter_isNone, hasked'.filter_isNone]
      at hsame
    have hsizes : probes'.map (·.answer.size?) = probes.map (·.answer.size?) := by
      have hsize? : (fun q : Query π => q.answer.size?) =
          (fun o : Except Status Report => (⟨o, []⟩ : Answer).size?) ∘ (·.answer.outcome) := rfl
      rw [hsize?, ← List.map_map, ← List.map_map, hsame]
    rw [← hprobes, ← hprobes'] at hsizes
    replace hconcluded' : Concluded payload' declared fills' _ := probe_congr hsizes ▸ hconcluded'
    rw [hconcluded.of_tooSmall hrefused]
    constructor
    · intro hroom
      exact hconcluded'.collected (by omega)
    · rintro ⟨written, hok⟩
      have hroom := (hconcluded'.of_ok hok).2
      omega

end Hest.Collection
