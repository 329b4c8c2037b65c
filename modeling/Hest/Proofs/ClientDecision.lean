import Hest.Proofs.ClientRules
import Hest.Proofs.Recording
import Hest.Proofs.TableRules

/-!
# How the client decides

The other side of the channel is not trusted: it may answer each message with any status and any
bytes.  `conclude` is the client on a table, over a channel that keeps a list of what it is sent:
the answer, the messages sent, and the table afterwards.

* `conclude_eq_session`: keeping the list changes neither the answer nor the table.
* `conclude_follows`: nothing but the answers of the channel matters.
* `state_session`: the messages account for what the client does to the other side.
* `conclude_keeps`: what appending keeps of the table, the client keeps.
* `conclude_of_failed`, `conclude_of_none` and `conclude_of_unmade` are the runs of one message,
  the lemmas after them those of two.
* `Ending` lists the ways in which the client ends over a channel that fails only for want of room,
  as `ending_of_unsent` and `ending_of_sent` show.
* `conclude_decided` joins all runs: the two replies decide the run.
-/

namespace Hest.Client

variable {ω : Type}

/-! ## Runs of the client -/

/-- A channel that keeps a list of the messages that it is sent. -/
def noted (channel : Service ω) : Service (ω × List Bytes) := fun message =>
  Act.recorded (channel message) fun _ => message

/-- The channel of the client, which leaves the table alone. -/
def line (channel : Service ω) : Service (ω × Table) := fun message => Act.onFirst (channel message)

/-- The appender of the client, which leaves the channel alone. -/
def toTable : Appender (ω × Table) := fun block length count =>
  Act.onSecond (Table.append block length count)

/-- The client with a table. -/
def session (channel : Service ω) : Act (ω × Table) (Except ClientError Outcome) :=
  appendCollected (line channel) toTable

/-- The client with a table, over a channel that keeps a list of what it is sent. -/
def watchedSession (channel : Service ω) :
    Act ((ω × Table) × List Bytes) (Except ClientError Outcome) :=
  appendCollected (noted (line channel)) fun block length count =>
    Act.onFirst (toTable block length count)

/-- What the client leaves: its answer, the messages that it sent, and the table. -/
structure Conclusion where
  answer : Except ClientError Outcome
  requests : List Bytes
  table : Table

/-- What the client leaves of a channel and a table. -/
def conclude (channel : Service ω) (w : ω) (t : Table) : Conclusion :=
  let e := watchedSession channel ((w, t), [])
  ⟨e.value, e.state.2, e.state.1.2⟩

section
variable {τ : Type} {R : (α : Type) → Act τ α → Act ω α → Prop} (hR : Act.Compatible R)
  (channel' : Service τ) (channel : Service ω)
  (hc : ∀ message, R (InPlace Status Unit) (channel' message) (channel message))
include hR hc

theorem exchange_compatible (message : Bytes) :
    R _ (exchange channel' message) (exchange channel message) :=
  hR.bind (hc message) fun _ => hR.pure _

theorem queryTotals_compatible : R _ (queryTotals channel') (queryTotals channel) := by
  unfold queryTotals
  split
  · exact hR.pure _
  refine hR.bind (exchange_compatible hR channel' channel hc _) fun reply => ?_
  rcases reply with ⟨_ | _, payload⟩
  · dsimp only
    split
    · exact hR.pure _
    · exact hR.bind (hR.say _ _ _) fun _ => hR.pure _
  · exact hR.pure _

theorem fetch_compatible (room : Nat) : R _ (fetch channel' room) (fetch channel room) := by
  unfold fetch
  split
  · exact hR.pure _
  refine hR.bind (exchange_compatible hR channel' channel hc _) fun reply => ?_
  rcases reply with ⟨_ | _, payload⟩
  · exact hR.bind (hR.say _ _ _) fun _ => hR.pure _
  · exact hR.pure _

/-- The client over related channels and related tables. -/
theorem appendCollected_compatible (append' : Appender τ) (append : Appender ω)
    (ha : ∀ block length count, R _ (append' block length count) (append block length count)) :
    R _ (appendCollected channel' append') (appendCollected channel append) := by
  refine hR.bind (queryTotals_compatible hR channel' channel hc) fun totals => ?_
  cases totals with
  | error e => exact hR.pure _
  | ok totals =>
    dsimp only
    split
    · exact hR.bind (hR.say _ _ _) fun _ => hR.pure _
    refine hR.bind (hR.say _ _ _) fun _ =>
      hR.bind (fetch_compatible hR channel' channel hc _) fun fetched => ?_
    rcases fetched with e | ⟨count, block⟩
    · exact hR.pure _
    dsimp only
    split
    · exact hR.bind (hR.say _ _ _) fun _ => hR.pure _
    refine hR.bind (ha _ _ _) fun appended => ?_
    cases appended with
    | error e => exact hR.pure _
    | ok _ => exact hR.bind (hR.say _ _ _) fun _ => hR.pure _

end

theorem noted_projects (channel : Service ω) (message : Bytes) :
    Act.Projects (noted channel message) (channel message) := .recorded _ _

/-- **Keeping the messages changes nothing** about the client. -/
theorem conclude_eq_session (channel : Service ω) (w : ω) (t : Table) :
    (conclude channel w t).answer = (session channel (w, t)).value ∧
      (conclude channel w t).table = (session channel (w, t)).state.2 := by
  obtain ⟨hv, hs, -⟩ := appendCollected_compatible .projects _ _ (noted_projects (line channel)) _ _
    (fun b l c => .onFirst (toTable b l c)) (w, t) []
  exact ⟨hv, congrArg Prod.snd hs⟩

/-- What the client leaves depends on the answers of the channel alone: a channel that answers as
another one does, from a part of its state, serves as well. -/
theorem conclude_follows {τ : Type} {part : τ → ω} {channel' : Service τ} {channel : Service ω}
    (h : ∀ message, Act.Follows part (channel' message) (channel message)) (v : τ) (t : Table) :
    conclude channel' v t = conclude channel (part v) t := by
  let world (s : (τ × Table) × List Bytes) : (ω × Table) × List Bytes :=
    ((part s.1.1, s.1.2), s.2)
  have hnoted (message : Bytes) :
      Act.Follows world (noted (line channel') message) (noted (line channel) message) := by
    intro s
    obtain ⟨hv, hs⟩ := h message s.1.1
    exact ⟨hv, by simp [world, noted, line, hs]⟩
  have hrun : Act.Follows world (watchedSession channel') (watchedSession channel) :=
    appendCollected_compatible (.follows world) _ _ hnoted _ _ fun _ _ _ _ => ⟨rfl, rfl⟩
  obtain ⟨hv, hs⟩ := hrun ((v, t), [])
  show _ = Conclusion.mk (watchedSession channel (world ((v, t), []))).value _ _
  rw [← hv, ← hs]
  rfl

/-- **The client reaches the other side only by its messages**: they account for the state that it
leaves there. -/
theorem state_session (channel : Service ω) (w : ω) (t : Table) :
    (session channel (w, t)).state.1 =
      (conclude channel w t).requests.foldl (fun v message => (channel message v).state) w := by
  let append : Appender ((ω × Table) × List Bytes) := fun block length count =>
    Act.onFirst (toTable block length count)
  obtain ⟨entered, hend⟩ := appendCollected_compatible
    (.retraced (fun s : (ω × Table) × List Bytes => (s.1.1, s.2))
      fun v message => (channel message v).state)
    (noted (line channel)) (noted (line channel)) (fun message _ => ⟨[message], rfl⟩)
    append append (fun _ _ _ => .still fun _ => rfl) ((w, t), [])
  obtain ⟨hworld, hrequests⟩ := Prod.mk.inj hend
  obtain ⟨-, hs, -⟩ := appendCollected_compatible .projects _ _ (noted_projects (line channel)) _ _
    (fun block length count => .onFirst (toTable block length count)) (w, t) []
  rw [session, ← hs, hworld, ← List.nil_append entered, ← hrequests]
  rfl

/-- What appending keeps of a table, the client keeps of it. -/
theorem conclude_keeps {I : Table → Prop}
    (h : ∀ block length count, Act.Keeps I (Table.append block length count))
    (channel : Service ω) (w : ω) {t : Table} (ht : I t) : I (conclude channel w t).table :=
  appendCollected_compatible (.keeps fun s : (ω × Table) × List Bytes => I s.1.2)
    (noted (line channel)) (noted (line channel)) (fun _ _ hs => hs)
    (fun block length count => Act.onFirst (toTable block length count))
    (fun block length count => Act.onFirst (toTable block length count))
    (fun block length count s hs => h block length count s.1.2 hs) ((w, t), []) ht

/-- A reply as the client meets it, when the messages `requests` were sent. -/
def Reply.after (r : Reply ω) (requests : List Bytes) (t : Table) :
    Reply ((ω × Table) × List Bytes) :=
  ⟨r.status, r.buffer, ((r.state, t), requests)⟩

@[simp] theorem length_after (r : Reply ω) (requests : List Bytes) (t : Table) :
    (r.after requests t).length = r.length := rfl

theorem after_eq {channel : Service ω} {message : Bytes} {w : ω} {r : Reply ω}
    (h : r = deliver channel message w) (requests : List Bytes) (t : Table) :
    r.after (requests ++ [message]) t =
      deliver (noted (line channel)) message ((w, t), requests) := by
  subst h; rfl

theorem conclude_eq {channel : Service ω} {w : ω} {t : Table} {answer : Except ClientError Outcome}
    {v : (ω × Table) × List Bytes} (h : (watchedSession channel ((w, t), [])).value = answer ∧
      (watchedSession channel ((w, t), [])).state = v) :
    conclude channel w t = ⟨answer, v.2, v.1.2⟩ := by
  rw [conclude, h.1, h.2]

/-! ## Runs of one message -/

section
variable {channel : Service ω} {w : ω} {t : Table} {first : Reply ω}
  (h₁ : first = deliver channel (blank 0) w)
include h₁

theorem conclude_of_failed {s : Status} (hs : first.status = .error s)
    (h : s ≠ .bufferTooSmall) (h' : s ≠ .badBufferSize) :
    conclude channel w t = ⟨.error (.communicate s), [blank 0], t⟩ :=
  conclude_eq (appendCollected_of_failed (after_eq h₁ [] t) hs h h')

variable (hsized : first.Sized)
include hsized

theorem conclude_of_none (h : first.count = 0 ∨ first.length = 0) :
    conclude channel w t = ⟨.ok .noErrorSources, [blank 0], t⟩ :=
  conclude_eq (appendCollected_of_none (after_eq h₁ [] t) hsized h)

variable (hc : first.count ≠ 0) (hl : first.length ≠ 0)
include hc hl

theorem conclude_of_unmade {e : ClientError} (h : request first.length = .error e) :
    conclude channel w t = ⟨.error e, [blank 0], t⟩ :=
  conclude_eq (appendCollected_of_fetch_error (after_eq h₁ [] t) hsized hc hl
    (fetch_of_refused (noted (line channel)) ((first.state, t), [blank 0]) h))

/-! ## Runs of two messages -/

variable (hroom : first.length + 40 ≤ Bytes.capacity) {second : Reply ω}
  (h₂ : second = deliver channel (blank first.length) first.state)
include hroom h₂

theorem conclude_of_second_failed {s : Status} (hs : second.status = .error s) :
    conclude channel w t = ⟨.error (.communicate s), [blank 0, blank first.length], t⟩ :=
  conclude_eq (appendCollected_of_fetch_error (after_eq h₁ [] t) hsized hc hl
    (fetch_of_failed (after_eq h₂ [blank 0] t) hroom hs))

variable (hs : second.status = .ok ())
include hs

theorem conclude_of_overflow (h : 2 ^ 64 ≤ second.length + 16) :
    conclude channel w t =
      ⟨.error (.reply .lengthOverflow), [blank 0, blank first.length], t⟩ := by
  obtain ⟨hv, hst⟩ := fetch_of_answered (after_eq h₂ [blank 0] t) hroom hs
  rw [length_after, if_pos (by omega)] at hv
  exact conclude_eq (appendCollected_of_fetch_error (after_eq h₁ [] t) hsized hc hl ⟨hv, hst⟩)

theorem conclude_of_tooShort (h : second.length + 16 < 2 ^ 64)
    (h' : first.length < second.length) :
    conclude channel w t =
      ⟨.error (.reply (.tooShort (16 + second.length) (16 + first.length))),
        [blank 0, blank first.length], t⟩ := by
  obtain ⟨hv, hst⟩ := fetch_of_answered (after_eq h₂ [blank 0] t) hroom hs
  rw [length_after, if_neg (by omega), if_pos h'] at hv
  exact conclude_eq (appendCollected_of_fetch_error (after_eq h₁ [] t) hsized hc hl ⟨hv, hst⟩)

variable (hfits : second.length ≤ first.length)
include hfits

theorem conclude_of_second_none (h : second.count = 0 ∨ second.length = 0) :
    conclude channel w t = ⟨.ok .noErrorSources, [blank 0, blank first.length], t⟩ := by
  obtain ⟨hf, hblock⟩ := fetch_of_fits (after_eq h₂ [blank 0] t) hroom hs hfits
  have hnone := h.imp_right fun h0 => List.eq_nil_of_length_eq_zero (hblock.trans h0)
  exact conclude_eq (appendCollected_of_fetch_none (after_eq h₁ [] t) hsized hc hl hf hnone)

variable (hc' : second.count ≠ 0) (hl' : second.length ≠ 0)
  {append : Effect Table (Except TableError Unit)} (happend : append =
    Table.append (second.buffer.window 40 second.length) second.length second.count t)
include hc' hl' happend

theorem conclude_of_appended (ha : append.value = .ok ()) :
    conclude channel w t = ⟨.ok (.appended second.count second.length),
      [blank 0, blank first.length], append.state⟩ := by
  subst happend
  obtain ⟨hf, hblock⟩ := fetch_of_fits (after_eq h₂ [blank 0] t) hroom hs hfits
  exact conclude_eq
    (appendCollected_of_appended (after_eq h₁ [] t) hsized hc hl hf hblock hc' hl' ha)

theorem conclude_of_refused {why : TableError} (ha : append.value = .error why) :
    conclude channel w t = ⟨.error (.append why), [blank 0, blank first.length], t⟩ := by
  subst happend
  obtain ⟨hf, hblock⟩ := fetch_of_fits (after_eq h₂ [blank 0] t) hroom hs hfits
  have hrefused : (toTable (second.buffer.window 40 second.length) second.length second.count
      (second.state, t)).value = .error why := ha
  have hend := conclude_eq
    (appendCollected_of_refused (after_eq h₁ [] t) hsized hc hl hf hblock hc' hl' hrefused)
  exact hend.trans (congrArg _ (Table.append_state_of_error ha))

end

/-! ## Channels that fail only for want of room -/

/-- The ways in which the client ends over such a channel: the first message brings the totals
`first`; one right after it, with room for that many bytes, brings the totals `second`, and `block`
behind them. -/
inductive Ending (first second : Totals) (block : Bytes) (t : Table) : Conclusion → Prop
  /-- There are no descriptors. -/
  | none : first.count = 0 ∨ first.length = 0 →
      Ending first second block t ⟨.ok .noErrorSources, [blank 0], t⟩
  /-- The second message would be too long in 64 bits. -/
  | overflow : first.count ≠ 0 → 2 ^ 64 ≤ first.length + 40 →
      Ending first second block t ⟨.error (.reply .lengthOverflow), [blank 0], t⟩
  /-- The second message cannot be held. -/
  | large : Bytes.capacity < first.length + 40 →
      Ending first second block t ⟨.error .outOfMemory, [blank 0], t⟩
  /-- The second message has too little room. -/
  | grown : first.length + 40 ≤ Bytes.capacity → first.length < second.length →
      Ending first second block t
        ⟨.error (.communicate .bufferTooSmall), [blank 0, blank first.length], t⟩
  /-- There are no descriptors any more. -/
  | vanished : first.length + 40 ≤ Bytes.capacity → second.length ≤ first.length →
      second.count = 0 ∨ second.length = 0 →
      Ending first second block t ⟨.ok .noErrorSources, [blank 0, blank first.length], t⟩
  | appended : first.length + 40 ≤ Bytes.capacity → second.length ≤ first.length →
      second.count ≠ 0 → second.length ≠ 0 →
      (Table.append block second.length second.count t).value = .ok () →
      Ending first second block t ⟨.ok (.appended second.count second.length),
        [blank 0, blank first.length], (Table.append block second.length second.count t).state⟩
  /-- The table refuses the descriptors. -/
  | refused {why : TableError} : first.length + 40 ≤ Bytes.capacity →
      second.length ≤ first.length → second.count ≠ 0 → second.length ≠ 0 →
      (Table.append block second.length second.count t).value = .error why →
      Ending first second block t ⟨.error (.append why), [blank 0, blank first.length], t⟩

/-- With the same totals twice, and room for them, the client finds nothing or has the table
decide. -/
theorem Ending.unchanged {totals : Totals} {block : Bytes} {t : Table} {c : Conclusion}
    (h : Ending totals totals block t c) (hroom : totals.length + 40 ≤ Bytes.capacity) :
    let append := Table.append block totals.length totals.count t
    (totals.count = 0 ∨ totals.length = 0) ∧ c.answer = .ok .noErrorSources ∧ c.table = t ∨
    totals.count ≠ 0 ∧ totals.length ≠ 0 ∧
      (append.value = .ok () ∧ c.answer = .ok (.appended totals.count totals.length) ∧
        c.table = append.state ∨
      ∃ why, append.value = .error why ∧ c.answer = .error (.append why)) := by
  have hcap : Bytes.capacity = 2 ^ 63 - 1 := rfl
  cases h with
  | none hnone => exact .inl ⟨hnone, rfl, rfl⟩
  | overflow _ hover => omega
  | large hlarge => omega
  | grown _ hgrown => omega
  | vanished _ _ hnone => exact .inl ⟨hnone, rfl, rfl⟩
  | appended _ _ hc hl ha => exact .inr ⟨hc, hl, .inl ⟨ha, rfl, rfl⟩⟩
  | refused _ _ hc hl ha => exact .inr ⟨hc, hl, .inr ⟨_, ha, rfl⟩⟩

section
variable {channel : Service ω} {w : ω} {t : Table} {r₁ : Reply ω}
  (h₁ : r₁ = deliver channel (blank 0) w) (hsized : r₁.Sized)
include h₁ hsized

/-- A run without a second message, whatever one would bring. -/
theorem ending_of_unsent (second : Totals) (block : Bytes)
    (h : r₁.count = 0 ∨ r₁.length = 0 ∨ Bytes.capacity < r₁.length + 40) :
    Ending ⟨r₁.count, r₁.length⟩ second block t (conclude channel w t) := by
  by_cases hnone : r₁.count = 0 ∨ r₁.length = 0
  · rw [conclude_of_none h₁ hsized hnone]
    exact .none hnone
  obtain ⟨hc, hl⟩ := not_or.1 hnone
  have hlarge : Bytes.capacity < r₁.length + 40 := by simpa [hc, hl] using h
  by_cases hover : 2 ^ 64 ≤ r₁.length + 40
  · rw [conclude_of_unmade h₁ hsized hc hl (request_of_overflow hover)]
    exact .overflow hc hover
  · rw [conclude_of_unmade h₁ hsized hc hl (request_of_large hlarge (Nat.lt_of_not_le hover))]
    exact .large hlarge

/-- A run with a second message that is refused only for want of room. -/
theorem ending_of_sent (hc : r₁.count ≠ 0) (hl : r₁.length ≠ 0)
    (hroom : r₁.length + 40 ≤ Bytes.capacity) {r₂ : Reply ω}
    (h₂ : r₂ = deliver channel (blank r₁.length) r₁.state)
    (hok : r₂.length ≤ r₁.length → r₂.status = .ok ())
    (hsmall : r₁.length < r₂.length → r₂.status = .error .bufferTooSmall) :
    Ending ⟨r₁.count, r₁.length⟩ ⟨r₂.count, r₂.length⟩ (r₂.buffer.window 40 r₂.length) t
      (conclude channel w t) := by
  by_cases hgrown : r₁.length < r₂.length
  · rw [conclude_of_second_failed h₁ hsized hc hl hroom h₂ (hsmall hgrown)]
    exact .grown hroom hgrown
  have hfits : r₂.length ≤ r₁.length := Nat.le_of_not_lt hgrown
  have hs := hok hfits
  by_cases hnone : r₂.count = 0 ∨ r₂.length = 0
  · rw [conclude_of_second_none h₁ hsized hc hl hroom h₂ hs hfits hnone]
    exact .vanished hroom hfits hnone
  obtain ⟨hc', hl'⟩ := not_or.1 hnone
  cases ha : (Table.append (r₂.buffer.window 40 r₂.length) r₂.length r₂.count t).value with
  | ok _ =>
    rw [conclude_of_appended h₁ hsized hc hl hroom h₂ hs hfits hc' hl' rfl ha]
    exact .appended hroom hfits hc' hl' ha
  | error why =>
    rw [conclude_of_refused h₁ hsized hc hl hroom h₂ hs hfits hc' hl' rfl ha]
    exact .refused hroom hfits hc' hl' ha

end

/-! ## All channels -/

/-- **The two replies decide what the client does.**  Over every channel:

* a first message that fails for a reason other than its size ends the client with that status, and
  one that announces no descriptors or no bytes ends it without error sources;
* a second message that is too long in 64 bits, or to be held, is not sent; else it has room for
  what was announced, and every failure of it ends the client with its status;
* of an answer, the announced length is looked at first, then whether there are descriptors; what is
  announced is then appended, and the table takes or refuses it. -/
theorem conclude_decided (channel : Service ω) (w : ω) (t : Table) :
    let first := deliver channel (blank 0) w
    let second := deliver channel (blank first.length) first.state
    let append := Table.append (second.buffer.window 40 second.length) second.length second.count t
    (∀ s, first.status = .error s → s ≠ .bufferTooSmall → s ≠ .badBufferSize →
      conclude channel w t = ⟨.error (.communicate s), [blank 0], t⟩) ∧
    (first.Sized → first.count = 0 ∨ first.length = 0 →
      conclude channel w t = ⟨.ok .noErrorSources, [blank 0], t⟩) ∧
    (first.Sized → first.count ≠ 0 → first.length ≠ 0 →
      (2 ^ 64 ≤ first.length + 40 →
        conclude channel w t = ⟨.error (.reply .lengthOverflow), [blank 0], t⟩) ∧
      (first.length + 40 < 2 ^ 64 → 2 ^ 63 - 1 < first.length + 40 →
        conclude channel w t = ⟨.error .outOfMemory, [blank 0], t⟩) ∧
      (first.length + 40 ≤ 2 ^ 63 - 1 →
        (∀ s, second.status = .error s → conclude channel w t =
          ⟨.error (.communicate s), [blank 0, blank first.length], t⟩) ∧
        (second.status = .ok () →
          (2 ^ 64 ≤ second.length + 16 → conclude channel w t =
            ⟨.error (.reply .lengthOverflow), [blank 0, blank first.length], t⟩) ∧
          (second.length + 16 < 2 ^ 64 → first.length < second.length → conclude channel w t =
            ⟨.error (.reply (.tooShort (16 + second.length) (16 + first.length))),
              [blank 0, blank first.length], t⟩) ∧
          (second.length ≤ first.length → second.count = 0 ∨ second.length = 0 →
            conclude channel w t = ⟨.ok .noErrorSources, [blank 0, blank first.length], t⟩) ∧
          (second.length ≤ first.length → second.count ≠ 0 → second.length ≠ 0 →
            (append.value = .ok () → conclude channel w t =
              ⟨.ok (.appended second.count second.length), [blank 0, blank first.length],
                append.state⟩) ∧
            (∀ e, append.value = .error e → conclude channel w t =
              ⟨.error (.append e), [blank 0, blank first.length], t⟩))))) := by
  intro first second append
  refine ⟨fun _ => conclude_of_failed rfl, conclude_of_none rfl, ?_⟩
  intro hsized hc hl
  refine ⟨?_, ?_, ?_⟩
  · intro h
    exact conclude_of_unmade rfl hsized hc hl (request_of_overflow h)
  · intro h h'
    exact conclude_of_unmade rfl hsized hc hl (request_of_large h' h)
  intro hroom
  constructor
  · intro s hs
    exact conclude_of_second_failed rfl hsized hc hl hroom rfl hs
  intro hs
  refine ⟨?_, ?_, ?_, ?_⟩
  · exact conclude_of_overflow rfl hsized hc hl hroom rfl hs
  · exact conclude_of_tooShort rfl hsized hc hl hroom rfl hs
  · exact conclude_of_second_none rfl hsized hc hl hroom rfl hs
  · intro hfits hc' hl'
    constructor
    · exact conclude_of_appended rfl hsized hc hl hroom rfl hs hfits hc' hl' rfl
    · intro why
      exact conclude_of_refused rfl hsized hc hl hroom rfl hs hfits hc' hl' rfl

/-- A channel that announces one descriptor less and one byte more with each message. -/
def drifting : Service Nat := fun message n =>
  ⟨⟨.ok (), message.overlayAt MessageHeader.size
    (LittleEndian.encode 8 (1 - n) ++ LittleEndian.encode 8 (3 + n))⟩, n + 1, []⟩

-- the second message announces no descriptors, and is refused for its length all the same
example : (conclude drifting 0 ⟨.standard, .empty⟩).answer =
    .error (.reply (.tooShort 20 19)) := by
  rfl

end Hest.Client
