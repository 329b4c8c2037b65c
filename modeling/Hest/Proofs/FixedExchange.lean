import Hest.Proofs.ClientDecision
import Hest.Proofs.DispatcherRules
import Hest.Proofs.FixedCollection

/-!
# From fixed producers to the table

The client, the message, the dispatcher and the two passes of a collection, put together: the
descriptors of a registry of fixed producers reach the table.  The registry may change between the
two messages.

* `deliver_communicate`: the dispatcher hands the client's message to the handler, and the handler's
  payload comes back behind the header.
* `found_of_room` and `found_of_no_room`: what a message finds in a registry.
* `conclude_unchanged`: the client over a registry that stays as it is.
* `conclude_served`: what the client leaves, for all contents at the two messages.
-/

namespace Hest

variable {η ω : Type}

namespace Client

open FixedSources Collection

/-! ## The client's message at the dispatcher -/

/-- The header of a message with room for `room` bytes of descriptors. -/
def blankHeader (room : Nat) : MessageHeader :=
  ⟨descriptorService, .ofNat (Announcement.size + room)⟩

theorem payloadLength_blankHeader {room : Nat} (h : 16 + room < 2 ^ 64) :
    (blankHeader room).payloadLength.toNat = 16 + room := UInt64.toNat_ofNat_of_lt' h

theorem blank_eq {room : Nat} (h : 16 + room < 2 ^ 64) :
    blank room = (blankHeader room).encode ++ Bytes.zeros (16 + room) := by
  rw [blank, MessageHeader.encode, payloadLength_blankHeader h, blankHeader, Announcement.size]

/-- **The message comes to the handler, and its payload comes back.** -/
theorem deliver_communicate {d : Dispatcher η} {handler : η}
    (hd : d.handler? descriptorService = some handler) (serve : η → Service ω) {room : Nat}
    (hroom : 16 + room < 2 ^ 64) (w : ω) :
    ∃ e, e = serve handler (Bytes.zeros (16 + room)) w ∧
      deliver (d.communicate serve) (blank room) w = ⟨e.value.result,
        (blankHeader room).encode ++ (Bytes.zeros (16 + room)).overlay e.value.buffer,
        e.state⟩ := by
  have hlength := payloadLength_blankHeader hroom
  have hblank := blank_eq hroom
  have hread : MessageHeader.readFrom (blank room) = .ok (blankHeader room) := by
    rw [hblank]; exact MessageHeader.readFrom_encode _ _
  have hfits : (blankHeader room).payloadLength.toNat ≤
      (blank room).length - MessageHeader.size := by
    rw [hlength, length_blank, MessageHeader.size]; omega
  obtain ⟨payload, e, hpayload, he, hvalue, hstate⟩ :=
    Dispatcher.communicate_of_handler hread hfits hd serve w
  have hzeros : payload = Bytes.zeros (16 + room) := by
    rw [hpayload, hlength, hblank, Bytes.window_skip (by simp), MessageHeader.length_encode,
      Nat.sub_self, Bytes.window_all (by simp)]
  rw [hzeros] at he hvalue
  have hover : (blank room).overlayAt MessageHeader.size
      ((Bytes.zeros (16 + room)).overlay e.value.buffer) =
      (blankHeader room).encode ++ (Bytes.zeros (16 + room)).overlay e.value.buffer := by
    rw [hblank, ← Nat.add_zero MessageHeader.size, Bytes.overlayAt_append_right (by simp),
      Bytes.overlayAt_zero, Bytes.overlay_of_length_eq (by simp)]
  have hsame : ((blankHeader room).encode ++
      (Bytes.zeros (16 + room)).overlay e.value.buffer).length = (blank room).length := by
    simp [hblank]
  refine ⟨e, he, ?_⟩
  rw [deliver, hvalue, hstate, hover, Bytes.overlay_of_length_eq hsame]

/-! ## What a message finds -/

/-- The totals of a registry can be announced, and its descriptors fit one message. -/
structure Sendable (r : Registry FixedSources) : Prop where
  count_lt : (sums r.producers).count < 2 ^ 64
  length_le : (sums r.producers).length + 40 ≤ Bytes.capacity

theorem Sendable.fits {r : Registry FixedSources} (h : Sendable r) : Fits (sums r.producers) := by
  have hcap : Bytes.capacity = 2 ^ 63 - 1 := rfl
  have hlength := h.length_le
  exact ⟨h.count_lt, by omega⟩

/-- A buffer with an announcement behind the header gives the two numbers. -/
theorem Reply.numbers {r : Reply ω} {header : MessageHeader} {t : Totals} (ht : Fits t)
    {body : Bytes}
    (h : r.buffer = header.encode ++ ((Announcement.ofTotals t).encode ++ body)) :
    r.count = t.count ∧ r.length = t.length := by
  have hdecode (x : UInt64) : LittleEndian.decode (LittleEndian.encode 8 x.toNat) = x.toNat :=
    LittleEndian.decode_encode (by simpa using x.toNat_lt)
  obtain ⟨hcount, hlength⟩ := ofTotals_toNat ht
  constructor
  · rw [Reply.count, h, ← hcount]; simp [Announcement.encode, MessageHeader.size, hdecode]
  · rw [Reply.length, h, ← hlength]; simp [Announcement.encode, MessageHeader.size, hdecode]

section
variable {d : Dispatcher η} {serve : η → Service (Registry FixedSources)} {handler : η}
  (hd : d.handler? descriptorService = some handler)
  (hserve : serve handler = answer Build.roster)
  {contents : Registry FixedSources} {room : Nat} (hroom : room + 40 ≤ Bytes.capacity)
  {r : Reply (Registry FixedSources)}
  (hr : r = deliver (d.communicate serve) (blank room) contents)
include hd hserve hroom hr

theorem found_of_answer {status : Except Status Unit} {payload : Bytes}
    (h : (answer Build.roster (Bytes.zeros (16 + room)) contents).value = ⟨status, payload⟩ ∧
      (answer Build.roster (Bytes.zeros (16 + room)) contents).state = contents)
    (hsize : payload.length = 16 + room) :
    r = ⟨status, (blankHeader room).encode ++ payload, contents⟩ := by
  have hcap : Bytes.capacity = 2 ^ 63 - 1 := rfl
  obtain ⟨e, he, hdeliver⟩ :=
    deliver_communicate hd serve (by omega : 16 + room < 2 ^ 64) contents
  rw [hserve] at he
  rw [hr, hdeliver, he, h.1, h.2, Bytes.overlay_of_length_eq (by simpa using hsize)]

variable (hsend : Sendable contents)
include hsend

/-- With room for the descriptors, a message brings them all. -/
theorem found_of_room (h : (sums contents.producers).length ≤ room) :
    r.status = .ok () ∧ r.count = (sums contents.producers).count ∧
      r.length = (sums contents.producers).length ∧ r.state = contents ∧
      r.buffer.window 40 r.length = joined contents.producers := by
  have hsize : (Bytes.zeros (16 + room)).length = 16 + room := Bytes.length_zeros _
  have hanswer := answer_of_room hsend.fits (by rw [hsize, Announcement.size]; omega)
    (by rw [hsize, Announcement.size]; omega)
  have hreply := found_of_answer hd hserve hroom hr hanswer
    (by simp [Announcement.size, Bytes.zeros]; omega)
  obtain ⟨hcount, hlength⟩ := Reply.numbers hsend.fits (congrArg Reply.buffer hreply)
  refine ⟨by rw [hreply], hcount, hlength, by rw [hreply], ?_⟩
  rw [hlength, hreply]
  simp [MessageHeader.size, Announcement.size]

/-- Without room for the descriptors, a message brings their totals. -/
theorem found_of_no_room (h : room < (sums contents.producers).length) :
    r.status = .error .bufferTooSmall ∧ r.count = (sums contents.producers).count ∧
      r.length = (sums contents.producers).length ∧ r.state = contents := by
  have hsize : (Bytes.zeros (16 + room)).length = 16 + room := Bytes.length_zeros _
  have hanswer := answer_of_no_room hsend.fits (by rw [hsize, Announcement.size]; omega)
    (by rw [hsize, Announcement.size]; omega)
  have hreply := found_of_answer hd hserve hroom hr hanswer
    (by simp [Announcement.size, Bytes.zeros])
  obtain ⟨hcount, hlength⟩ := Reply.numbers hsend.fits (congrArg Reply.buffer hreply)
  exact ⟨by rw [hreply], hcount, hlength, by rw [hreply]⟩

end

section
variable {d : Dispatcher η} {serve : η → Service (Registry FixedSources)} {handler : η}
  (hd : d.handler? descriptorService = some handler)
  (hserve : serve handler = answer Build.roster) {contents : Registry FixedSources}
  (hsend : Sendable contents) {r : Reply (Registry FixedSources)}
include hd hserve hsend

/-- A message without room brings the totals, whether or not there are any bytes. -/
theorem first_found (hr : r = deliver (d.communicate serve) (blank 0) contents) :
    r.Sized ∧ r.count = (sums contents.producers).count ∧
      r.length = (sums contents.producers).length ∧ r.state = contents := by
  have hroom : 0 + 40 ≤ Bytes.capacity := by decide
  by_cases hl : (sums contents.producers).length ≤ 0
  · obtain ⟨hs, hcount, hlength, hstate, -⟩ := found_of_room hd hserve hroom hr hsend hl
    exact ⟨.inl hs, hcount, hlength, hstate⟩
  · obtain ⟨hs, hcount, hlength, hstate⟩ :=
      found_of_no_room hd hserve hroom hr hsend (Nat.lt_of_not_le hl)
    exact ⟨.inr (.inl hs), hcount, hlength, hstate⟩

/-- Over a registry that stays as it is the second message has the room that it needs. -/
theorem conclude_unchanged (t : Table) :
    Ending (sums contents.producers) (sums contents.producers) (joined contents.producers) t
      (conclude (d.communicate serve) contents t) := by
  obtain ⟨r₁, hr₁⟩ : ∃ r, r = deliver (d.communicate serve) (blank 0) contents := ⟨_, rfl⟩
  obtain ⟨hsized, hcount₁, hlength₁, hstate₁⟩ := first_found hd hserve hsend hr₁
  have htotals : sums contents.producers = ⟨r₁.count, r₁.length⟩ := by rw [hcount₁, hlength₁]
  have hroom : r₁.length + 40 ≤ Bytes.capacity := by rw [hlength₁]; exact hsend.length_le
  by_cases hnone : r₁.count = 0 ∨ r₁.length = 0
  · rw [htotals]
    exact ending_of_unsent hr₁ hsized _ _ (hnone.imp_right .inl)
  obtain ⟨hc, hl⟩ := not_or.1 hnone
  obtain ⟨r₂, hr₂⟩ : ∃ r, r = deliver (d.communicate serve) (blank r₁.length) r₁.state :=
    ⟨_, rfl⟩
  obtain ⟨hs, hcount₂, hlength₂, -, hblock⟩ :=
    found_of_room hd hserve hroom (hstate₁ ▸ hr₂) hsend (Nat.le_of_eq hlength₁.symm)
  have hend := ending_of_sent hr₁ hsized hc hl hroom hr₂ (t := t) (fun _ => hs)
    fun h => absurd h (by rw [hlength₁, hlength₂]; exact Nat.lt_irrefl _)
  rw [hlength₂] at hblock
  rwa [← htotals, hcount₂, hlength₂, hblock] at hend

end

/-! ## The exchange -/

/-- A channel to a dispatcher on a registry, which holds the `n`-th contents when the `n`-th message
comes; messages are counted from 0. -/
def served (d : Dispatcher η) (serve : η → Service (Registry FixedSources))
    (contents : Nat → Registry FixedSources) : Service Nat := fun message n =>
  let e := d.communicate serve message (contents n)
  ⟨e.value, n + 1, e.log⟩

/-- What a message finds there is what it finds in those contents. -/
theorem deliver_served (d : Dispatcher η) (serve : η → Service (Registry FixedSources))
    (contents : Nat → Registry FixedSources) (message : Bytes) (n : Nat) :
    ∃ f, f = deliver (d.communicate serve) message (contents n) ∧
      deliver (served d serve contents) message n = ⟨f.status, f.buffer, n + 1⟩ :=
  ⟨_, rfl, rfl⟩

section
variable {d : Dispatcher η} {serve : η → Service (Registry FixedSources)} {handler : η}
  (hd : d.handler? descriptorService = some handler)
  (hserve : serve handler = answer Build.roster)
  {contents : Nat → Registry FixedSources} {n room : Nat} (hroom : room + 40 ≤ Bytes.capacity)
  {r : Reply Nat} (hr : r = deliver (served d serve contents) (blank room) n)
  (hsend : Sendable (contents n))
include hd hserve hroom hr hsend

theorem reply_of_room (h : (sums (contents n).producers).length ≤ room) :
    r.status = .ok () ∧ r.count = (sums (contents n).producers).count ∧
      r.length = (sums (contents n).producers).length ∧ r.state = n + 1 ∧
      r.buffer.window 40 r.length = joined (contents n).producers := by
  obtain ⟨f, hf, hserved⟩ := deliver_served d serve contents (blank room) n
  obtain ⟨hs, hcount, hlength, -, hblock⟩ := found_of_room hd hserve hroom hf hsend h
  rw [hr, hserved]
  exact ⟨hs, hcount, hlength, rfl, hblock⟩

theorem reply_of_no_room (h : room < (sums (contents n).producers).length) :
    r.status = .error .bufferTooSmall ∧ r.count = (sums (contents n).producers).count ∧
      r.length = (sums (contents n).producers).length ∧ r.state = n + 1 := by
  obtain ⟨f, hf, hserved⟩ := deliver_served d serve contents (blank room) n
  obtain ⟨hs, hcount, hlength, -⟩ := found_of_no_room hd hserve hroom hf hsend h
  rw [hr, hserved]
  exact ⟨hs, hcount, hlength, rfl⟩

end

section
variable {d : Dispatcher η} {serve : η → Service (Registry FixedSources)} {handler : η}
  (hd : d.handler? descriptorService = some handler)
  (hserve : serve handler = answer Build.roster)
  {contents : Nat → Registry FixedSources} (h₀ : Sendable (contents 0))
include hd hserve h₀

/-- The first message brings the totals. -/
theorem first_reply {r : Reply Nat} (hr : r = deliver (served d serve contents) (blank 0) 0) :
    r.Sized ∧ r.count = (sums (contents 0).producers).count ∧
      r.length = (sums (contents 0).producers).length ∧ r.state = 1 := by
  obtain ⟨f, hf, hserved⟩ := deliver_served d serve contents (blank 0) 0
  obtain ⟨hsized, hcount, hlength, -⟩ := first_found hd hserve h₀ hf
  rw [hr, hserved]
  exact ⟨hsized, hcount, hlength, rfl⟩

/-- **The descriptors of fixed producers reach the table.**  For all contents of the registry at the
two messages, with totals `first` and `second`:

* without descriptors or bytes at the first message, it is the only one, and the table is as it was;
* more bytes at the second message than at the first end the client, and nothing is appended;
* no descriptors or bytes at the second message: nothing is appended;
* else all descriptors of the second contents are appended, in the order of installation, or the
  table refuses them. -/
theorem conclude_served (h₁ : Sendable (contents 1)) (t : Table) :
    let first := sums (contents 0).producers
    let second := sums (contents 1).producers
    let append := Table.append (joined (contents 1).producers) second.length second.count t
    let conclusion := conclude (served d serve contents) 0 t
    (first.count = 0 ∨ first.length = 0 →
      conclusion = ⟨.ok .noErrorSources, [blank 0], t⟩) ∧
    (first.count ≠ 0 → first.length ≠ 0 →
      (first.length < second.length → conclusion =
        ⟨.error (.communicate .bufferTooSmall), [blank 0, blank first.length], t⟩) ∧
      (second.length ≤ first.length → second.count = 0 ∨ second.length = 0 → conclusion =
        ⟨.ok .noErrorSources, [blank 0, blank first.length], t⟩) ∧
      (second.length ≤ first.length → second.count ≠ 0 → second.length ≠ 0 →
        (append.value = .ok () → conclusion =
          ⟨.ok (.appended second.count second.length), [blank 0, blank first.length],
            append.state⟩) ∧
        (∀ e, append.value = .error e → conclusion =
          ⟨.error (.append e), [blank 0, blank first.length], t⟩))) := by
  intro first second append conclusion
  let r₁ := deliver (served d serve contents) (blank 0) 0
  let r₂ := deliver (served d serve contents) (blank r₁.length) r₁.state
  obtain ⟨hsized, hcount₁, hlength₁, hstate₁⟩ := first_reply hd hserve h₀ (rfl : r₁ = _)
  have hroom : r₁.length + 40 ≤ Bytes.capacity := by rw [hlength₁]; exact h₀.length_le
  -- the second message asks for what the first contents held, and meets the second ones
  have hr₂ : r₂ = deliver (served d serve contents) (blank r₁.length) 1 := by rw [← hstate₁]
  constructor
  · intro h
    exact conclude_of_none rfl hsized (by rwa [hcount₁, hlength₁])
  have hfirst : first.length = r₁.length := hlength₁.symm
  rw [hfirst]
  intro hc hl
  rw [← hcount₁] at hc
  refine ⟨?_, ?_, ?_⟩
  · intro h
    obtain ⟨hs, -⟩ := reply_of_no_room hd hserve hroom hr₂ h₁ h
    exact conclude_of_second_failed rfl hsized hc hl hroom rfl hs
  · intro h h0
    obtain ⟨hs, hcount₂, hlength₂, -⟩ := reply_of_room hd hserve hroom hr₂ h₁ h
    have hfits : r₂.length ≤ r₁.length := by rw [hlength₂]; exact h
    exact conclude_of_second_none rfl hsized hc hl hroom rfl hs hfits (by rwa [hcount₂, hlength₂])
  · intro h hc' hl'
    obtain ⟨hs, hcount₂, hlength₂, -, hblock⟩ := reply_of_room hd hserve hroom hr₂ h₁ h
    have happend : append = Table.append (r₂.buffer.window 40 r₂.length) r₂.length r₂.count t := by
      rw [hblock, hcount₂, hlength₂]
    have hfits : r₂.length ≤ r₁.length := by rw [hlength₂]; exact h
    rw [← hcount₂] at hc'
    rw [← hlength₂] at hl'
    constructor
    · intro ha
      have hend := conclude_of_appended rfl hsized hc hl hroom rfl hs hfits hc' hl' happend ha
      rw [hcount₂, hlength₂] at hend
      exact hend
    · intro why ha
      exact conclude_of_refused rfl hsized hc hl hroom rfl hs hfits hc' hl' happend ha

end

/-- A dispatcher with the collection as its only handler. -/
def lone : Dispatcher Unit := (Dispatcher.register descriptorService () {}).state

/-- The service behind the only handler. -/
def collector (_ : Unit) : Service (Registry FixedSources) := answer Build.roster

/-- A registry that loses a producer of five bytes between the two messages, and gets one of two. -/
def restless : Nat → Registry FixedSources
  | 0 => ⟨2, [(⟨0⟩, ⟨[1, 2, 3], 1⟩), (⟨1⟩, ⟨[4, 5, 6, 7, 8], 2⟩)]⟩
  | _ => ⟨3, [(⟨0⟩, ⟨[1, 2, 3], 1⟩), (⟨2⟩, ⟨[9, 10], 4⟩)]⟩

theorem conclude_served_restless : conclude (served lone collector restless) 0 ⟨.standard, .empty⟩ =
    ⟨.ok (.appended 5 5), [blank 0, blank 8],
      (Table.append [1, 2, 3, 9, 10] 5 5 ⟨.standard, .empty⟩).state⟩ := by
  have h₀ : Sendable (restless 0) := ⟨by decide, by decide⟩
  have h₁ : Sendable (restless 1) := ⟨by decide, by decide⟩
  have hd : lone.handler? descriptorService = some () := by decide
  have hserve : collector () = answer Build.roster := rfl
  obtain ⟨-, hsome⟩ := conclude_served hd hserve h₀ h₁ ⟨.standard, .empty⟩
  obtain ⟨-, -, hfits⟩ := hsome (by decide) (by decide)
  obtain ⟨happended, -⟩ := hfits (by decide) (by decide) (by decide)
  exact happended rfl

end Client

end Hest
