import Hest.Proofs.CollectionRules
import Hest.Proofs.Queries

/-!
# The second pass

In the second pass each producer is handed what is left of the region, and may do to it whatever it
likes.  The pass is read here off its list of queries, by positions in the whole region.

* `cursor` is where the next producer begins: behind the bytes accepted from those before it;
  `regionBefore` is the region as the producers before it left it.
* `Passed` says, query by query, how a region is worked through; `fill_noted` shows that the second
  pass does so.
* `getElem_handed`, `cursor_le` and `window_kept`: each producer is handed exactly the region from
  the cursor on, the cursor stays inside the region, and what an accepted producer left is not
  touched any more.
* `fill_confined` joins these for a whole collection.
-/

namespace Hest

namespace Query

variable {π : Type}

/-- The totals that count: those of a producer that wrote within the room that it was offered. -/
def accepted (q : Query π) : Option Totals :=
  match q.destination, q.answer.outcome with
  | some d, .ok (.written t) => if t.length ≤ d.length then some t else none
  | _, _ => none

/-- The bytes accepted in a query. -/
def taken (q : Query π) : Nat := (q.accepted.map (·.length)).getD 0

/-- The descriptors accepted in a query. -/
def counted (q : Query π) : Nat := (q.accepted.map (·.count)).getD 0

/-- The destination as the producer left it. -/
def left (q : Query π) : Bytes := (q.destination.getD []).overlay q.answer.bytes

theorem taken_le (q : Query π) : q.taken ≤ q.left.length := by
  unfold taken accepted left
  split
  · rename_i d t hd ho
    split <;> simp_all
  · simp

end Query

namespace Collection

variable {ω π : Type}

/-! ## Positions -/

/-- The bytes accepted before the `i`-th query. -/
def cursor (qs : List (Query π)) (i : Nat) : Nat := ((qs.take i).map (·.taken)).sum

/-- The region before the `i`-th query: each producer before it left something from its cursor
on. -/
def regionBefore (region : Bytes) (qs : List (Query π)) : Nat → Bytes
  | 0 => region
  | i + 1 =>
    match qs[i]? with
    | some q => (regionBefore region qs i).overlayAt (cursor qs i) q.left
    | none => regionBefore region qs i

@[simp] theorem cursor_zero (qs : List (Query π)) : cursor qs 0 = 0 := rfl

@[simp] theorem cursor_cons (q : Query π) (qs : List (Query π)) (i : Nat) :
    cursor (q :: qs) (i + 1) = q.taken + cursor qs i := rfl

/-! ## Working through a region -/

/-- `Passed region qs after`: in the queries `qs` each producer is handed what is left of `region`,
and loses the bytes accepted from it; `after` is the region in the end. -/
inductive Passed : Bytes → List (Query π) → Bytes → Prop
  | done {region} : Passed region [] region
  | next {region q qs rest} : q.destination = some region →
      Passed (q.left.drop q.taken) qs rest →
      Passed region (q :: qs) (q.left.take q.taken ++ rest)

theorem length_take_taken (q : Query π) : (q.left.take q.taken).length = q.taken := by
  rw [List.length_take, Nat.min_eq_left q.taken_le]

theorem length_left {q : Query π} {region : Bytes} (h : q.destination = some region) :
    q.left.length = region.length := by
  simp [Query.left, h]

/-- Behind the bytes accepted first, the region is that of the later queries. -/
theorem regionBefore_cons {q : Query π} {qs : List (Query π)} {region : Bytes}
    (h : q.destination = some region) (i : Nat) : regionBefore region (q :: qs) (i + 1) =
      q.left.take q.taken ++ regionBefore (q.left.drop q.taken) qs i := by
  induction i with
  | zero =>
    simp only [regionBefore, List.getElem?_cons_zero, cursor_zero, Bytes.overlayAt_zero,
      List.take_append_drop]
    exact Bytes.overlay_of_length_eq (length_left h)
  | succ i ih =>
    rw [regionBefore, ih, regionBefore, List.getElem?_cons_succ, cursor_cons]
    cases qs[i]? with
    | none => rfl
    | some q' => exact Bytes.overlayAt_append_right (length_take_taken q) _

namespace Passed

variable {region after : Bytes} {qs : List (Query π)}

theorem length_eq (h : Passed region qs after) : after.length = region.length := by
  induction h with
  | done => rfl
  | @next region q qs rest hd _ ih =>
    have htaken := q.taken_le
    rw [List.length_append, List.length_take, ih, List.length_drop, length_left hd] at *
    omega

theorem eq_regionBefore (h : Passed region qs after) :
    after = regionBefore region qs qs.length := by
  induction h with
  | done => rfl
  | next hd _ ih => rw [List.length_cons, regionBefore_cons hd, ← ih]

/-- **The cursor stays inside the region.** -/
theorem cursor_le (h : Passed region qs after) (i : Nat) : cursor qs i ≤ region.length := by
  induction h generalizing i with
  | done => simp [cursor]
  | @next region q qs rest hd _ ih =>
    cases i with
    | zero => exact Nat.zero_le _
    | succ i =>
      have htaken := q.taken_le
      have := ih i
      rw [List.length_drop, length_left hd] at this
      rw [length_left hd] at htaken
      rw [cursor_cons]
      omega

/-- **Each producer is handed the region from the cursor on.** -/
theorem getElem_handed (h : Passed region qs after) (i : Nat) (hi : i < qs.length) :
    qs[i].destination = some ((regionBefore region qs i).drop (cursor qs i)) := by
  induction h generalizing i with
  | done => simp at hi
  | @next region q qs rest hd _ ih =>
    cases i with
    | zero => simpa [regionBefore] using hd
    | succ i =>
      have hdrop : (q.left.take q.taken ++ regionBefore (q.left.drop q.taken) qs i).drop
          (q.taken + cursor qs i) =
          (regionBefore (q.left.drop q.taken) qs i).drop (cursor qs i) := by
        rw [← List.drop_drop, List.drop_left' (length_take_taken q)]
      rw [List.getElem_cons_succ, ih i (Nat.lt_of_succ_lt_succ hi), regionBefore_cons hd,
        cursor_cons, hdrop]

/-- **What an accepted producer left stays**, whatever later producers do. -/
theorem window_kept (h : Passed region qs after) (i : Nat) (hi : i < qs.length) :
    after.window (cursor qs i) qs[i].taken = qs[i].left.take qs[i].taken := by
  induction h generalizing i with
  | done => simp at hi
  | @next region q qs rest hd _ ih =>
    have htaken := length_take_taken q
    cases i with
    | zero => exact Bytes.window_head htaken
    | succ i =>
      rw [cursor_cons, Bytes.window_skip (by omega), htaken, Nat.add_sub_cancel_left,
        List.getElem_cons_succ, ih i (Nat.lt_of_succ_lt_succ hi)]

end Passed

/-! ## The pass -/

theorem verdict_eq_accepted (index : Nat) (p : π) (d : Bytes) (a : Answer) :
    (verdict index d.length a.outcome).1 = (⟨p, some d, a⟩ : Query π).accepted := by
  unfold verdict Query.accepted
  split <;> simp_all
  split <;> rfl

theorem taken_eq {q : Query π} {t : Totals} (h : q.accepted = some t) :
    q.taken = t.length ∧ q.counted = t.count := by
  simp [Query.taken, Query.counted, h]

theorem taken_eq_zero {q : Query π} (h : q.accepted = none) : q.taken = 0 ∧ q.counted = 0 := by
  simp [Query.taken, Query.counted, h]

/-- One producer in the second pass: it loses what is accepted from it, and the rest of the region
goes to the others. -/
theorem fill_cons (roster : Roster ω π) (index : Nat) {written : Totals}
    (hw : written.count < 2 ^ 64) {region : Bytes} {p : π} (ps : List π) {w : ω} {q : Query π}
    (hq : q = ⟨p, some region, (roster.ask p (some region) w).value⟩) :
    ∃ e, e = fill roster (index + 1)
        ⟨countUpTo written.count q.counted, written.length + q.taken⟩ (q.left.drop q.taken) ps
        (roster.ask p (some region) w).state ∧
      (fill roster index written region (p :: ps) w).value =
        (e.value.1, q.left.take q.taken ++ e.value.2) ∧
      (fill roster index written region (p :: ps) w).state = e.state ∧
      (fill roster index written region (p :: ps) w).log =
        (roster.ask p (some region) w).log ++
          ((verdict index region.length q.answer.outcome).2 ++ e.log) := by
  have hanswer : q.answer = (roster.ask p (some region) w).value := by rw [hq]
  have hv := verdict_eq_accepted index p region (roster.ask p (some region) w).value
  have hleft : q.left = region.overlay (roster.ask p (some region) w).value.bytes := by
    rw [hq]; rfl
  refine ⟨_, rfl, ?_⟩
  rcases hverdict : verdict index region.length (roster.ask p (some region) w).value.outcome with
    ⟨_ | t, records⟩
  · rw [hverdict, ← hq] at hv
    obtain ⟨htaken, hcounted⟩ := taken_eq_zero hv.symm
    have hcount : countUpTo written.count 0 = written.count := by
      rw [countUpTo_eq]; omega
    simp [fill, hverdict, htaken, hcounted, hcount, hleft, hanswer]
  · rw [hverdict, ← hq] at hv
    obtain ⟨htaken, hcounted⟩ := taken_eq hv.symm
    simp [fill, hverdict, htaken, hcounted, hleft, hanswer]

/-- **The second pass** asks each producer once, in order, works the region through, and sums up
what it accepted. -/
theorem fill_noted (roster : Roster ω π) (index : Nat) {written : Totals}
    (hw : written.count < 2 ^ 64) (region : Bytes) (producers : List π) (w : ω)
    (before : List (Query π)) :
    ∃ fills e, e = fill roster.noted index written region producers (w, before) ∧
      e.state.2 = before ++ fills ∧ fills.map (·.producer) = producers ∧
      Passed region fills e.value.2 ∧
      e.value.1.length = written.length + (fills.map (·.taken)).sum ∧
      e.value.1.count = min (written.count + (fills.map (·.counted)).sum) (2 ^ 64 - 1) := by
  induction producers generalizing index written region w before with
  | nil =>
    refine ⟨[], _, rfl, by simp [fill], rfl, .done, by simp [fill], ?_⟩
    simp only [fill, Act.pure_apply, List.map_nil, List.sum_nil]
    omega
  | cons p ps ih =>
    -- the bytes accepted from `p` leave the region, and the rest of the pass works on what is left
    let q : Query π := ⟨p, some region, (roster.ask p (some region) w).value⟩
    let sum : Totals := ⟨countUpTo written.count q.counted, written.length + q.taken⟩
    have hsum : sum.count < 2 ^ 64 := by
      show countUpTo written.count q.counted < 2 ^ 64
      rw [countUpTo_eq]; omega
    obtain ⟨e, he, hvalue, hstate, -⟩ :=
      fill_cons roster.noted index hw ps (w := (w, before)) (rfl : q = _)
    obtain ⟨fills, e', he', hs, hp, hpassed, hlength, hcount⟩ := ih (index + 1) hsum
      (q.left.drop q.taken) (roster.ask p (some region) w).state (before ++ [q])
    obtain rfl : e = e' := he.trans he'.symm
    refine ⟨q :: fills, _, rfl, ?_, by simp [hp, q], ?_, ?_, ?_⟩
    · rw [hstate, hs, List.append_assoc, List.singleton_append]
    · rw [hvalue]; exact .next rfl hpassed
    · rw [hvalue, hlength, List.map_cons, List.sum_cons, Nat.add_assoc]
    · rw [hvalue, hcount, List.map_cons, List.sum_cons]
      simp only [sum, countUpTo_eq]
      omega

theorem length_fill (roster : Roster ω π) (index : Nat) {written : Totals}
    (hw : written.count < 2 ^ 64) (region : Bytes) (producers : List π) (w : ω) :
    (fill roster index written region producers w).value.2.length = region.length := by
  obtain ⟨fills, e, he, -, -, hpassed, -⟩ := fill_noted roster index hw region producers w []
  rw [he, (fill_noted_projects roster index written region producers w []).1] at hpassed
  exact hpassed.length_eq

theorem cursor_succ (qs : List (Query π)) (i : Nat) (hi : i < qs.length) :
    cursor qs (i + 1) = cursor qs i + qs[i].taken := by
  induction qs generalizing i with
  | nil => simp at hi
  | cons q qs ih =>
    cases i with
    | zero => simp
    | succ i => simp [ih i (Nat.lt_of_succ_lt_succ hi), Nat.add_assoc]

/-- A collection of given producers that comes to its second pass: the questions of this pass follow
those of the first one, and work the room of the payload through. -/
theorem gather_filled (roster : Roster ω π) (producers : List π) {payload : Bytes} {w : ω}
    {declared : Totals} (hd : (probe roster 0 .zero producers w).value = declared)
    (h0 : 0 < declared.length) (hroom : declared.length ≤ payload.length - Announcement.size) :
    ∃ fills after, (gather roster.noted producers payload (w, [])).state.2 =
        (probe roster.noted 0 .zero producers (w, [])).state.2 ++ fills ∧
      fills.map (·.producer) = producers ∧ Passed (payload.drop Announcement.size) fills after ∧
      (gather roster producers payload w).value =
        ⟨.ok ⟨declared, min (fills.map (·.counted)).sum (2 ^ 64 - 1), (fills.map (·.taken)).sum⟩,
          (Announcement.ofTotals declared).encode ++ after⟩ := by
  have hd' : (probe roster.noted 0 .zero producers (w, [])).value = declared :=
    (probe_noted_projects roster 0 .zero producers w []).1.trans hd
  obtain ⟨e, he, hvalue, hend⟩ := gather_of_fits hd' (Nat.ne_of_gt h0) hroom
  obtain ⟨fills, e', he', hfills, hfilled, hpassed, hlength, hcount⟩ := fill_noted roster 0
    (show Totals.zero.count < 2 ^ 64 by decide) (payload.drop Announcement.size) producers
    (probe roster.noted 0 .zero producers (w, [])).state.1
    (probe roster.noted 0 .zero producers (w, [])).state.2
  obtain rfl : e = e' := he.trans he'.symm
  refine ⟨fills, e.value.2, by rw [hend, hfills], hfilled, hpassed, ?_⟩
  have hsum : e.value.1 =
      ⟨min (fills.map (·.counted)).sum (2 ^ 64 - 1), (fills.map (·.taken)).sum⟩ := by
    have heta : e.value.1 = ⟨e.value.1.count, e.value.1.length⟩ := rfl
    rw [heta, hlength, hcount]
    simp [Totals.zero]
  rw [← hsum, ← hvalue]
  exact (gather_compatible .projects _ _ roster.ask_noted producers payload w []).1.symm

/-- A collection that came to its second pass over `producers`, seen from its queries `fills` in
that pass: the payload began as `payload` and ends as `buffer`. -/
structure Confined (producers : List π) (payload : Bytes) (declared : Totals)
    (fills : List (Query π)) (result : Except CollectError Collected) (buffer : Bytes) : Prop where
  /-- Each producer is asked once, in order. -/
  asked : fills.map (·.producer) = producers
  /-- The cursor never exceeds the region. -/
  cursor_le : ∀ i, cursor fills i ≤ payload.length - Announcement.size
  /-- Nor does it with what is accepted from the next producer. -/
  taken_le : ∀ i (_ : i < fills.length),
    cursor fills i + fills[i].taken ≤ payload.length - Announcement.size
  /-- Each producer is handed the region, as those before it left it, from the cursor on. -/
  handed : ∀ i (_ : i < fills.length), fills[i].destination =
    some ((regionBefore (payload.drop Announcement.size) fills i).drop (cursor fills i))
  /-- What an accepted producer left is in the payload at the end. -/
  kept : ∀ i (_ : i < fills.length),
    buffer.window (Announcement.size + cursor fills i) fills[i].taken =
      fills[i].left.take fills[i].taken
  /-- The region at the end is as the last producer left it. -/
  region_eq : buffer.drop Announcement.size =
    regionBefore (payload.drop Announcement.size) fills fills.length
  /-- The payload still begins with the declared totals. -/
  announced : ∃ a, buffer.take Announcement.size = Announcement.encode a ∧
    Announcement.readFrom buffer = .ok a ∧ a.count.toNat = declared.count ∧
    a.length.toNat = declared.length
  length_eq : buffer.length = payload.length
  /-- The report holds the sums of what was accepted, the count kept within 64 bits. -/
  reported : result = .ok ⟨declared, min (fills.map (·.counted)).sum (2 ^ 64 - 1),
    (fills.map (·.taken)).sum⟩

/-- **No producer writes outside its room.**  Whatever the producers do, a collection that comes to
its second pass, that is one whose declared totals are not empty and fit the payload, asks each
producer once without a destination and once with one, and the second pass is confined. -/
theorem fill_confined {roster : Roster ω π} {payload : Bytes} {w : ω} {producers : List π}
    {declared : Totals} (hsize : Announcement.size ≤ payload.length)
    (hl : (roster.locate w).value = .ok producers)
    (hd : (probe roster 0 .zero producers (roster.locate w).state).value = declared)
    (h0 : 0 < declared.length) (hs : declared.length ≤ payload.length - Announcement.size) :
    ∃ probes fills, (collect roster.noted payload (w, [])).state.2 = probes ++ fills ∧
      probes.map (·.producer) = producers ∧ (∀ q ∈ probes, q.destination = none) ∧
      Confined producers payload declared fills (collect roster payload w).value.result
        (collect roster payload w).value.buffer := by
  let start := probe roster.noted 0 .zero producers ((roster.locate w).state, [])
  obtain ⟨probes, hprobes, hasked, hnone⟩ :=
    probe_noted roster 0 .zero producers (roster.locate w).state []
  have hd' : start.value = declared :=
    (probe_noted_projects roster 0 .zero producers _ []).1.trans hd
  obtain ⟨hvalue, hstate⟩ :=
    collect_of_located hsize (show (roster.noted.locate (w, [])).value = .ok producers from hl)
  obtain ⟨e, he, hgather, hend⟩ := gather_of_fits hd' (Nat.ne_of_gt h0) hs
  obtain ⟨fills, e', he', hfills, hproducers, hpassed, hlength, hcount⟩ := fill_noted roster 0
    (show Totals.zero.count < 2 ^ 64 by decide) (payload.drop Announcement.size) producers
    start.state.1 start.state.2
  obtain rfl : e = e' := he.trans he'.symm
  have hreply : (collect roster payload w).value = ⟨.ok ⟨declared, e.value.1⟩,
      (Announcement.ofTotals declared).encode ++ e.value.2⟩ := by
    rw [← (collect_noted_projects roster payload w []).1, hvalue]
    exact hgather
  have hregion : (payload.drop Announcement.size).length = payload.length - Announcement.size :=
    List.length_drop
  have hencode := (Announcement.ofTotals declared).length_encode
  refine ⟨probes, fills, ?_, hasked, hnone, ?_⟩
  · rw [hstate]
    exact (hend ▸ hfills).trans (congrArg (· ++ fills) hprobes)
  · rw [hreply]
    refine ⟨hproducers, fun i => ?_, fun i hi => ?_, fun i hi => hpassed.getElem_handed i hi,
      fun i hi => ?_, ?_, ?_, ?_, ?_⟩
    · rw [← hregion]; exact hpassed.cursor_le i
    · rw [← cursor_succ fills i hi, ← hregion]; exact hpassed.cursor_le (i + 1)
    · rw [Bytes.window_skip (by omega), hencode, Nat.add_sub_cancel_left]
      exact hpassed.window_kept i hi
    · rw [List.drop_left' hencode]; exact hpassed.eq_regionBefore
    · have hfits : Fits declared := hd ▸ fits_probe roster 0 fits_zero producers _
      exact ⟨_, List.take_left' hencode, Announcement.readFrom_encode _ _, ofTotals_toNat hfits⟩
    · rw [List.length_append, hencode, hpassed.length_eq, hregion]; omega
    · have hsum : e.value.1 = ⟨e.value.1.count, e.value.1.length⟩ := rfl
      rw [hsum, hlength, hcount]
      simp [Totals.zero]

/-- Producers that overwrite all that they are handed, each with the number of questions before, and
report as many bytes as their own number. -/
def greedy : Roster Nat Nat where
  locate := pure (.ok [2, 1000, 1])
  ask p destination := do
    let asked ← Act.get
    Act.set (asked + 1)
    match destination with
    | none => return ⟨.ok (.sizeOnly ⟨1, 2⟩), []⟩
    | some d => return ⟨.ok (.written ⟨2 ^ 64 - 2, p⟩), List.replicate d.length (.ofNat asked)⟩

theorem fill_confined_greedy :
    (probe greedy 0 .zero [2, 1000, 1] 0).value = ⟨3, 6⟩ ∧
    ∃ probes fills, (collect greedy.noted (Bytes.zeros 22) (0, [])).state.2 = probes ++ fills ∧
      probes.map (·.producer) = [2, 1000, 1] ∧ (∀ q ∈ probes, q.destination = none) ∧
      Confined [2, 1000, 1] (Bytes.zeros 22) ⟨3, 6⟩ fills
        (collect greedy (Bytes.zeros 22) 0).value.result
        (collect greedy (Bytes.zeros 22) 0).value.buffer :=
  ⟨rfl, fill_confined (by decide) rfl rfl (by decide) (by decide)⟩

-- the second producer reports too much, so the third one writes over what it left
example : (collect greedy (Bytes.zeros 22) 0).value.buffer.drop 16 = [3, 3, 5, 5, 5, 5] := by
  decide

end Collection

end Hest
