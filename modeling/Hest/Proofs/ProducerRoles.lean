import Hest.Proofs.ProbePass
import Hest.Proofs.Snapshot

/-!
# Producers that fail

A producer may fail when it is asked for its size, or when it is asked for its descriptors.  The
others are collected all the same: their descriptors close up, and only the announcement, which is
made before, still counts those that failed later.

* A `Role` is what one producer does in both passes; `Role.Plays` says that an answer is in the
  role.  Fixed producers are honest (`plays_honest`).
* `Passed.played`: the second pass lays the blocks of the honest producers one after another.
* `collect_played`: what a collection gives if each producer plays a role in its questions.
  `plays_questions` is for producers that do so whenever they are asked.
-/

namespace Hest

/-! ## Roles -/

/-- What a producer does in a collection. -/
inductive Role where
  /-- It tells its size and writes its block. -/
  | honest (count : Nat) (block : Bytes)
  /-- It tells a size, and then writes nothing. -/
  | failing (size : Totals)
  /-- It fails in both passes. -/
  | absent

namespace Role

/-- The size that is told in a role. -/
def size? : Role → Option Totals
  | honest count block => some ⟨count, block.length⟩
  | failing size => some size
  | absent => none

/-- What is written in a role. -/
def block : Role → Bytes
  | honest _ block => block
  | failing _ | absent => []

/-- The totals of what is written in a role. -/
def written : Role → Totals
  | honest count block => ⟨count, block.length⟩
  | failing _ | absent => 0

/-- The answer to a question, with a destination or with none, is as the role has it.  An honest
producer is free if the destination is too small for it. -/
def Plays : Role → Option Bytes → Answer → Prop
  | honest count block, none, a => a.outcome = .ok (.sizeOnly ⟨count, block.length⟩)
  | honest count block, some d, a => block.length ≤ d.length →
      a.outcome = .ok (.written ⟨count, block.length⟩) ∧
        d.overlay a.bytes = block ++ d.drop block.length
  | failing size, none, a => a.outcome = .ok (.sizeOnly size)
  | failing _, some d, a => (∀ t, a.outcome ≠ .ok (.written t)) ∧ d.overlay a.bytes = d
  | absent, none, a => ∃ status, a.outcome = .error status
  | absent, some d, a => (∃ status, a.outcome = .error status) ∧ d.overlay a.bytes = d

theorem length_block (role : Role) : role.block.length = role.written.length := by
  cases role <;> rfl

theorem length_blocks (roles : List Role) :
    (roles.flatMap block).length = (roles.map written).sum.length := by
  induction roles with
  | nil => rfl
  | cons role roles ih => simp [length_block, ih]

/-- What is written is counted in the sizes that are told. -/
theorem sum_written_le (roles : List Role) :
    (roles.map written).sum.count ≤ (roles.filterMap size?).sum.count ∧
      (roles.map written).sum.length ≤ (roles.filterMap size?).sum.length := by
  induction roles with
  | nil => exact ⟨Nat.le_refl _, Nat.le_refl _⟩
  | cons role roles ih =>
    cases role <;> simp [written, size?, List.filterMap_cons] <;> omega

end Role

namespace FixedSources

/-- **A producer whose descriptors are fixed is honest.** -/
theorem plays_honest (s : FixedSources) (destination : Option Bytes) :
    (Role.honest s.count s.descriptors).Plays destination (s.answer destination) := by
  cases destination with
  | none => rfl
  | some d =>
    intro hroom
    have hanswer : s.answer (some d) = ⟨.ok (.written s.totals), s.descriptors⟩ := if_pos hroom
    rw [hanswer]
    exact ⟨rfl, Bytes.overlay_of_le hroom⟩

/-- In a destination that is too small for its descriptors it writes nothing. -/
theorem plays_failing (s : FixedSources) {d : Bytes} (h : ¬s.descriptors.length ≤ d.length) :
    (Role.failing s.totals).Plays (some d) (s.answer (some d)) := by
  have hanswer : s.answer (some d) = ⟨.ok (.sizeOnly s.totals), []⟩ := if_neg h
  rw [hanswer]
  exact ⟨fun t ht => (nomatch ht), Bytes.overlay_nil d⟩

end FixedSources

namespace Collection

open LittleEndian

variable {ω π : Type}

/-! ## The second pass -/

/-- What a role takes of the room, and what it leaves to the next producer. -/
theorem taken_of_plays {role : Role} {q : Query π} {region : Bytes}
    (hd : q.destination = some region) (hplays : role.Plays q.destination q.answer)
    (hroom : role.block.length ≤ region.length) :
    q.taken = role.written.length ∧ q.counted = role.written.count ∧
      q.left.take q.taken = role.block ∧ q.left.drop q.taken = region.drop role.block.length := by
  rw [hd] at hplays
  have hleft : q.left = region.overlay q.answer.bytes := by
    rw [Query.left, hd]
    rfl
  -- whoever reports nothing written takes nothing
  have hnone (hno : ∀ t, q.answer.outcome ≠ .ok (.written t)) : q.taken = 0 ∧ q.counted = 0 := by
    refine taken_eq_zero ?_
    unfold Query.accepted
    split
    · exact absurd ‹_› (hno _)
    · rfl
  cases role with
  | honest count block =>
    obtain ⟨houtcome, hbytes⟩ := hplays hroom
    have haccepted : q.accepted = some ⟨count, block.length⟩ := by
      rw [Query.accepted, hd, houtcome]
      exact if_pos hroom
    obtain ⟨htaken, hcounted⟩ := taken_eq haccepted
    rw [hleft, hbytes, htaken]
    exact ⟨rfl, hcounted, List.take_left, List.drop_left⟩
  | failing size =>
    obtain ⟨hno, hbytes⟩ := hplays
    obtain ⟨htaken, hcounted⟩ := hnone hno
    rw [hleft, hbytes, htaken]
    exact ⟨rfl, hcounted, rfl, rfl⟩
  | absent =>
    obtain ⟨⟨status, houtcome⟩, hbytes⟩ := hplays
    obtain ⟨htaken, hcounted⟩ := hnone fun t h => by rw [houtcome] at h; cases h
    rw [hleft, hbytes, htaken]
    exact ⟨rfl, hcounted, rfl, rfl⟩

/-- The questions go to producers that play the roles, one each, in order. -/
def Played (roles : List Role) (qs : List (Query π)) : Prop :=
  List.Forall₂ (fun role q => role.Plays q.destination q.answer) roles qs

/-- **The blocks close up**: behind a producer that writes nothing the next one begins where it
began, so there is room for all as long as there is room for what is written. -/
theorem Passed.played {region after : Bytes} {fills : List (Query π)}
    (h : Passed region fills after) {roles : List Role} (hplayed : Played roles fills)
    (hroom : (roles.map Role.written).sum.length ≤ region.length) :
    after = roles.flatMap Role.block ++ region.drop (roles.flatMap Role.block).length ∧
      (fills.map (·.taken)).sum = (roles.map Role.written).sum.length ∧
      (fills.map (·.counted)).sum = (roles.map Role.written).sum.count := by
  induction h generalizing roles with
  | done =>
    cases hplayed
    exact ⟨rfl, rfl, rfl⟩
  | @next region q qs rest hd _ ih =>
    cases hplayed with
    | @cons role _ roles _ hrole hroles =>
      rw [List.map_cons, List.sum_cons, Totals.length_add, ← role.length_block] at hroom
      obtain ⟨htaken, hcounted, htake, hdrop⟩ := taken_of_plays hd hrole (by omega)
      rw [hdrop] at ih
      obtain ⟨hrest, hlength, hcount⟩ := ih hroles (by rw [List.length_drop]; omega)
      refine ⟨?_, ?_, ?_⟩
      · rw [htake, hrest, List.drop_drop, List.flatMap_cons, List.length_append,
          List.append_assoc]
      · rw [List.map_cons, List.sum_cons, htaken, hlength]
        rfl
      · rw [List.map_cons, List.sum_cons, hcounted, hcount]
        rfl

/-! ## The first pass -/

theorem Played.sizes {roles : List Role} {probes : List (Query π)} (h : Played roles probes)
    (hd : ∀ q ∈ probes, q.destination = none) :
    probes.filterMap (·.answer.size?) = roles.filterMap Role.size? := by
  induction h with
  | nil => rfl
  | @cons role q roles qs hrole _ ih =>
    obtain ⟨hnone, hqs⟩ := List.forall_mem_cons.1 hd
    have hsize : q.answer.size? = role.size? := by
      rw [hnone] at hrole
      cases role with
      | honest count block =>
        have houtcome : q.answer.outcome = .ok (.sizeOnly ⟨count, block.length⟩) := hrole
        rw [Answer.size?, houtcome]
        rfl
      | failing size =>
        have houtcome : q.answer.outcome = .ok (.sizeOnly size) := hrole
        rw [Answer.size?, houtcome]
        rfl
      | absent =>
        obtain ⟨status, houtcome⟩ := hrole
        rw [Answer.size?, houtcome]
        rfl
    rw [List.filterMap_cons, List.filterMap_cons, hsize, ih hqs]

/-- **The first pass counts whoever tells a size**, as long as the sums fit. -/
theorem probe_played {roster : Roster ω π} {producers : List π} {w : ω} {roles : List Role}
    (hplayed : Played roles (probe roster.noted 0 .zero producers (w, [])).state.2)
    (hfits : Fits (roles.filterMap Role.size?).sum) :
    (probe roster 0 .zero producers w).value = (roles.filterMap Role.size?).sum := by
  obtain ⟨probes, hs, -, hd, hvalue⟩ := probe_admitted roster 0 .zero producers w []
  rw [hs, List.nil_append] at hplayed
  have hsizes := hplayed.sizes hd
  have hfits' : Fits ((0 : Totals) + (probes.filterMap (·.answer.size?)).sum) := by
    rw [zero_add, hsizes]
    exact hfits
  rw [hvalue, show Totals.zero = 0 from rfl, zero_add, filterMap_admitted_of_fits hfits', hsizes]

/-! ## The collection -/

/-- Questions to all producers, in order, pair with the roles of these. -/
theorem mem_zip_roles {producers : List π} {qs : List (Query π)} {role : π → Role}
    (h : qs.map (·.producer) = producers) :
    ∀ x ∈ (producers.map role).zip qs, x.2 ∈ qs ∧ x.1 = role x.2.producer := by
  have hzip : (qs.map fun q => role q.producer).zip qs =
      qs.map fun q => (role q.producer, q) := by
    have hmap := List.zip_map' (f := fun q : Query π => role q.producer) (g := id) (l := qs)
    rwa [List.map_id] at hmap
  rw [← h, List.map_map]
  intro x hx
  obtain ⟨q, hq, rfl⟩ := List.mem_map.1 (hzip ▸ hx)
  exact ⟨hq, rfl⟩

section
variable {roster : Roster ω π} {payload : Bytes} {w : ω} {producers : List π}
  (hfound : roster.Finds w producers)
include hfound

theorem questions_of_found (hsize : Announcement.size ≤ payload.length) :
    (collect roster.noted payload (w, [])).state.2 =
      (gather roster.noted producers payload ((roster.locate w).state, [])).state.2 := by
  have hnoted : roster.noted.Finds (w, []) producers := hfound
  exact congrArg Prod.snd (collect_of_found hsize hnoted).2

/-- **Whoever fails, the others are collected.**  Suppose that producers play roles, each its own,
in both passes of a collection, that the sizes they tell fit in 64 bits together, and that the
payload has room for them.  Then the collection ends well.  It announces the sums of these sizes,
and behind the announcement stand the blocks of the honest producers, one after another, and then
the bytes that were there; it reports what these producers wrote.  If no bytes are announced, no
producer is handed a destination, and nothing is reported as written. -/
theorem collect_played {roles : List Role} {declared : Totals}
    (hroles : roles.length = producers.length)
    (hplays : ∀ x ∈ (roles ++ roles).zip (collect roster.noted payload (w, [])).state.2,
      x.1.Plays x.2.destination x.2.answer)
    (hdeclared : (roles.filterMap Role.size?).sum = declared) (hfits : Fits declared)
    (hroom : Announcement.size + declared.length ≤ payload.length) :
    (collect roster payload w).value =
      ⟨.ok ⟨declared, if declared.length = 0 then .zero else (roles.map Role.written).sum⟩,
        encode 8 declared.count ++ encode 8 declared.length ++ (roles.flatMap Role.block ++
          payload.drop (Announcement.size + (roles.flatMap Role.block).length))⟩ ∧
    (declared.length = 0 →
      ∀ q ∈ (collect roster.noted payload (w, [])).state.2, q.destination = none) := by
  have hsize : Announcement.size ≤ payload.length := by omega
  have hquestions := questions_of_found hfound hsize
  obtain ⟨probes, fills, hprobes, htrace, hasked⟩ :=
    gather_asked roster producers payload (roster.locate w).state rfl
  -- the questions of the first pass go to the roles, and those of the second to the roles again
  have hlen : roles.length = probes.length := by
    rw [hroles, ← hasked.probed, List.length_map]
  rw [hquestions, htrace, List.zip_append hlen] at hplays
  have hplayed : Played roles probes :=
    List.forall₂_iff_zip.2 ⟨hlen, fun hx => hplays _ (List.mem_append_left _ hx)⟩
  have hd : (probe roster 0 .zero producers (roster.locate w).state).value = declared := by
    rw [← hprobes] at hplayed
    rw [probe_played hplayed (by rwa [hdeclared]), hdeclared]
  rw [hd] at hasked
  have hwritten := Role.sum_written_le roles
  rw [hdeclared] at hwritten
  rw [hquestions, htrace, (collect_of_found hsize hfound).1, ← encode_ofTotals hfits]
  by_cases h0 : declared.length = 0
  · have hnone : roles.flatMap Role.block = [] :=
      List.eq_nil_of_length_eq_zero (by rw [Role.length_blocks]; omega)
    refine ⟨?_, fun _ q hq => ?_⟩
    · rw [(gather_of_zero hd payload h0).1, if_pos h0, hnone]
      rfl
    · rw [hasked.unfilled (by omega), List.append_nil] at hq
      exact hasked.unhanded q hq
  · obtain ⟨fills', after, htrace', hfilled, hpassed, hvalue⟩ :=
      gather_filled roster producers hd (Nat.pos_of_ne_zero h0)
        (show declared.length ≤ payload.length - Announcement.size by omega)
    rw [htrace, hprobes] at htrace'
    obtain rfl : fills = fills' := List.append_cancel_left htrace'
    have hplayed' : Played roles fills :=
      List.forall₂_iff_zip.2 ⟨by rw [hroles, ← hfilled, List.length_map],
        fun hx => hplays _ (List.mem_append_right _ hx)⟩
    obtain ⟨hafter, hlength, hcount⟩ := hpassed.played hplayed'
      (by rw [List.length_drop]; omega)
    -- what was written is counted in what was declared, so its count fits too
    have hkept : min (roles.map Role.written).sum.count (2 ^ 64 - 1) =
        (roles.map Role.written).sum.count := by
      have hlt := hfits.1
      omega
    refine ⟨?_, fun h => absurd h h0⟩
    rw [hvalue, hafter, hlength, hcount, hkept, if_neg h0, List.drop_drop]

/-- Producers that play their roles whenever they are asked do so in a collection. -/
theorem plays_questions (hsize : Announcement.size ≤ payload.length) {role : π → Role}
    (h : ∀ p ∈ producers, ∀ d v, (role p).Plays d (roster.ask p d v).value) :
    ∀ x ∈ (producers.map role ++ producers.map role).zip
        (collect roster.noted payload (w, [])).state.2,
      x.1.Plays x.2.destination x.2.answer := by
  have hgiven := gather_given roster producers payload (roster.locate w).state
  obtain ⟨probes, fills, -, htrace, hasked⟩ :=
    gather_asked roster producers payload (roster.locate w).state rfl
  rw [htrace] at hgiven
  rw [questions_of_found hfound hsize, htrace]
  have hplays (q : Query π) (hq : q ∈ probes ++ fills) :
      (role q.producer).Plays q.destination q.answer := by
    obtain ⟨v, ha⟩ := hgiven q hq
    rw [ha]
    exact h q.producer (hasked.mem_producers hq) q.destination v
  rw [List.zip_append (by rw [List.length_map, ← hasked.probed, List.length_map])]
  intro x hx
  rcases List.mem_append.1 hx with hx | hx
  · obtain ⟨hq, hrole⟩ := mem_zip_roles hasked.probed x hx
    rw [hrole]
    exact hplays x.2 (List.mem_append_left _ hq)
  · rcases hasked.fills_eq with rfl | hfilled
    · rw [List.zip_nil_right] at hx
      cases hx
    · obtain ⟨hq, hrole⟩ := mem_zip_roles hfilled x hx
      rw [hrole]
      exact hplays x.2 (List.mem_append_right _ hq)

end

/-- What a producer does that plays a role. -/
def act : Role → Option Bytes → Answer
  | .honest count block, d => FixedSources.answer ⟨block, count⟩ d
  | .failing size, none => ⟨.ok (.sizeOnly size), []⟩
  | .failing _, some _ => ⟨.error .deviceError, []⟩
  | .absent, _ => ⟨.error .notFound, []⟩

theorem plays_act (role : Role) (destination : Option Bytes) :
    role.Plays destination (act role destination) := by
  cases role with
  | honest count block => exact FixedSources.plays_honest ⟨block, count⟩ destination
  | failing size =>
    cases destination with
    | none => rfl
    | some d => exact ⟨fun t h => (nomatch h), Bytes.overlay_nil d⟩
  | absent =>
    cases destination with
    | none => exact ⟨.notFound, rfl⟩
    | some d => exact ⟨⟨.notFound, rfl⟩, Bytes.overlay_nil d⟩

/-- Producers that are their roles; they count the questions. -/
def troupe : Roster Nat Role where
  locate := pure (.ok [.honest 1 [1, 2], .failing ⟨2, 3⟩, .absent, .honest 1 [9]])
  ask role destination := do
    Act.modify (· + 1)
    return act role destination

theorem collect_played_troupe : (collect troupe (List.replicate 24 7) 0).value =
    ⟨.ok ⟨⟨4, 6⟩, ⟨2, 3⟩⟩,
      [4, 0, 0, 0, 0, 0, 0, 0, 6, 0, 0, 0, 0, 0, 0, 0, 1, 2, 9, 7, 7, 7, 7, 7]⟩ := by
  have hfound : troupe.Finds 0 [.honest 1 [1, 2], .failing ⟨2, 3⟩, .absent, .honest 1 [9]] :=
    .inl rfl
  have hsize : Announcement.size ≤ (List.replicate 24 (7 : UInt8)).length := by decide
  exact (collect_played hfound (List.length_map id)
    (plays_questions hfound hsize fun role _ d _ => plays_act role d) rfl
    ⟨by decide, by decide⟩ (by decide)).1

end Collection

end Hest
