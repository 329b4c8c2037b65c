import Hest.Client
import Hest.Proofs.MessageFormat

/-!
# The rules of the client

What the client sends, and how the replies decide what it does.

* `blank` is the message that the client sends; `request_of_le`, `request_of_overflow` and
  `request_of_large` say when it can be made.
* `deliver` is what a channel makes of a message, with the two numbers that the client reads in the
  buffer that comes back.
* The lemmas on `appendCollected` give its value and the state that it leaves, one for each way in
  which it ends.
-/

namespace Hest.Client

variable {ω : Type}

@[simp] theorem mapError_ok {ε ε' α : Type} (f : ε → ε') (a : α) :
    (Except.ok a).mapError f = .ok a := rfl

@[simp] theorem mapError_error {ε ε' α : Type} (f : ε → ε') (e : ε) :
    (Except.error e : Except ε α).mapError f = .error (f e) := rfl

/-! ## Requests -/

/-- A message to the collection with room for `room` bytes of descriptors: whom it is for, how long
the payload is, and the payload, all zeros. -/
def blank (room : Nat) : Bytes :=
  descriptorService.encode ++ LittleEndian.encode 8 (Announcement.size + room) ++
    Bytes.zeros (Announcement.size + room)

@[simp] theorem length_blank (room : Nat) : (blank room).length = 40 + room := by
  simp [blank, Announcement.size]; omega

/-- A zeroed buffer with the header for its own size is a blank message. -/
theorem writeTo_zeros {room : Nat} (h : 16 + room < 2 ^ 64) : ∃ header,
    MessageHeader.forBuffer descriptorService (40 + room) = .ok header ∧
      header.writeTo (Bytes.zeros (40 + room)) = ⟨.ok (), blank room⟩ := by
  have hlength : (UInt64.ofNat (16 + room)).toNat = 16 + room := UInt64.toNat_ofNat_of_lt' h
  have hzeros : (Bytes.zeros (40 + room)).drop 24 = Bytes.zeros (16 + room) := by
    rw [Bytes.zeros, List.drop_replicate, Bytes.zeros]; congr 1; omega
  refine ⟨_, forBuffer_of_lt descriptorService h, ?_⟩
  rw [(MessageHeader.overwrites _).written _ (by simp; omega), hzeros, MessageHeader.encode,
    hlength, blank, Announcement.size]

theorem request_of_le {room : Nat} (h : room + 40 ≤ Bytes.capacity) :
    request room = .ok (blank room) := by
  have hcap : Bytes.capacity = 2 ^ 63 - 1 := rfl
  have hsize := messageSize_of_lt (show room + 40 < 2 ^ 64 by omega)
  have hfits : ¬Bytes.capacity < 40 + room := by omega
  obtain ⟨header, hheader, hwrite⟩ := writeTo_zeros (by omega : 16 + room < 2 ^ 64)
  simp [request, hsize, hheader, hwrite, hfits, bind, Except.bind, pure, Except.pure]

theorem request_of_overflow {room : Nat} (h : 2 ^ 64 ≤ room + 40) :
    request room = .error (.reply .lengthOverflow) := by
  simp [request, messageSize_of_overflow h, bind, Except.bind]

theorem request_of_large {room : Nat} (h : Bytes.capacity < room + 40)
    (h' : room + 40 < 2 ^ 64) : request room = .error .outOfMemory := by
  have hlarge : Bytes.capacity < 40 + room := by omega
  simp [request, messageSize_of_lt h', hlarge, bind, Except.bind]

/-! ## Replies -/

/-- What a channel makes of a message: its status, the buffer of the message afterwards, and its own
state. -/
structure Reply (ω : Type) where
  status : Except Status Unit
  buffer : Bytes
  state : ω

namespace Reply

/-- The number of descriptors that the buffer announces. -/
def count (r : Reply ω) : Nat := LittleEndian.decode (r.buffer.window 24 8)

/-- The bytes of descriptors that the buffer announces. -/
def length (r : Reply ω) : Nat := LittleEndian.decode (r.buffer.window 32 8)

/-- The reply carries the totals: the message was answered, or refused for its size. -/
def Sized (r : Reply ω) : Prop :=
  r.status = .ok () ∨ r.status = .error .bufferTooSmall ∨ r.status = .error .badBufferSize

end Reply

/-- Sends a message over a channel; the buffer keeps its size. -/
def deliver (channel : Service ω) (message : Bytes) (w : ω) : Reply ω where
  status := (channel message w).value.result
  buffer := message.overlay (channel message w).value.buffer
  state := (channel message w).state

@[simp] theorem length_deliver (channel : Service ω) (message : Bytes) (w : ω) :
    (deliver channel message w).buffer.length = message.length := by simp [deliver]

theorem exchange_apply (channel : Service ω) (message : Bytes) (w : ω) :
    (exchange channel message w).value = ((deliver channel message w).status,
      (deliver channel message w).buffer.drop MessageHeader.size) ∧
    (exchange channel message w).state = (deliver channel message w).state := by
  simp [exchange, deliver]

/-- A buffer that holds an announcement is read, and gives the two numbers. -/
theorem readFrom_drop {r : Reply ω} (h : 40 ≤ r.buffer.length) :
    ∃ a, Announcement.readFrom (r.buffer.drop MessageHeader.size) = .ok a ∧
      a.count.toNat = r.count ∧ a.length.toNat = r.length := by
  have hsize : Announcement.size ≤ (r.buffer.drop MessageHeader.size).length := by
    simp only [List.length_drop, Announcement.size, MessageHeader.size]; omega
  obtain ⟨a, ha, hc, hl⟩ := Announcement.readFrom_of_le hsize
  rw [Bytes.window_drop] at hc hl
  exact ⟨a, ha, hc, hl⟩

/-! ## The first message -/

section
variable {channel : Service ω} {w : ω} {r : Reply ω} (hr : r = deliver channel (blank 0) w)
include hr

theorem queryTotals_of_failed {s : Status} (h : r.status = .error s) (hs : sizeReply s = false) :
    (queryTotals channel w).value = .error (.communicate s) ∧
      (queryTotals channel w).state = r.state := by
  subst hr
  obtain ⟨hv, hst⟩ := exchange_apply channel (blank 0) w
  have hreq : request 0 = .ok (blank 0) := request_of_le (by decide)
  simp [queryTotals, hreq, hv, hst, h, hs]

theorem queryTotals_of_sized (h : r.Sized) : ∃ a, (queryTotals channel w).value = .ok a ∧
    a.count.toNat = r.count ∧ a.length.toNat = r.length ∧
    (queryTotals channel w).state = r.state := by
  subst hr
  obtain ⟨hv, hst⟩ := exchange_apply channel (blank 0) w
  have hreq : request 0 = .ok (blank 0) := request_of_le (by decide)
  obtain ⟨a, ha, hc, hl⟩ := readFrom_drop (r := deliver channel (blank 0) w) (by simp)
  refine ⟨a, ?_, hc, hl, ?_⟩ <;>
    rcases h with h | h | h <;>
      simp [queryTotals, hreq, hv, hst, h, ha, sizeReply]

theorem queryTotals_of_some (h : r.Sized) (hc : r.count ≠ 0) (hl : r.length ≠ 0) :
    ∃ a, (queryTotals channel w).value = .ok a ∧ ¬(a.count = 0 ∨ a.length = 0) ∧
      a.length.toNat = r.length ∧ (queryTotals channel w).state = r.state := by
  obtain ⟨a, hv, hcount, hlength, hst⟩ := queryTotals_of_sized hr h
  refine ⟨a, hv, ?_, hlength, hst⟩
  rintro (h | h)
  · exact hc (by rw [← hcount, h]; rfl)
  · exact hl (by rw [← hlength, h]; rfl)

end

/-! ## The second message -/

theorem fetch_of_refused (channel : Service ω) {room : Nat} {e : ClientError} (w : ω)
    (h : request room = .error e) :
    (fetch channel room w).value = .error e ∧ (fetch channel room w).state = w := by
  simp [fetch, h]

section
variable {channel : Service ω} {w : ω} {room : Nat} {r : Reply ω}
  (hr : r = deliver channel (blank room) w) (hroom : room + 40 ≤ Bytes.capacity)
include hr hroom

theorem fetch_of_failed {s : Status} (h : r.status = .error s) :
    (fetch channel room w).value = .error (.communicate s) ∧
      (fetch channel room w).state = r.state := by
  subst hr
  obtain ⟨hv, hst⟩ := exchange_apply channel (blank room) w
  simp [fetch, request_of_le hroom, hv, hst, h]

theorem fetch_of_answered (h : r.status = .ok ()) :
    (fetch channel room w).value =
      (if 2 ^ 64 ≤ 16 + r.length then .error (.reply .lengthOverflow)
      else if room < r.length then .error (.reply (.tooShort (16 + r.length) (16 + room)))
      else .ok (r.count, r.buffer.window 40 r.length)) ∧
    (fetch channel room w).state = r.state := by
  obtain ⟨hv, hst⟩ := exchange_apply channel (blank room) w
  rw [← hr] at hv hst
  have hlen : r.buffer.length = 40 + room := by simp [hr]
  obtain ⟨a, ha, hc, hl⟩ := readFrom_drop (r := r) (by omega)
  have hpayload : (r.buffer.drop MessageHeader.size).length = 16 + room := by
    simp only [List.length_drop, hlen, MessageHeader.size]; omega
  have hdescriptors : a.descriptors (r.buffer.drop MessageHeader.size) =
      if 2 ^ 64 ≤ 16 + r.length then .error .lengthOverflow
      else if room < r.length then .error (.tooShort (16 + r.length) (16 + room))
      else .ok (r.buffer.window 40 r.length) := by
    have hshort : 16 + room < 16 + r.length ↔ room < r.length := by omega
    rw [Announcement.descriptors, hpayload, hl, Bytes.window_drop]
    simp only [Announcement.size, MessageHeader.size, hshort]
    rfl
  refine ⟨?_, by simp [fetch, request_of_le hroom, hv, hst, h]⟩
  simp only [fetch, request_of_le hroom, Act.value_bind, hv, h, Act.pure_apply]
  simp only [ha, hdescriptors, hc, bind, Except.bind]
  by_cases hover : 2 ^ 64 ≤ 16 + r.length
  · simp only [if_pos hover]; rfl
  by_cases hshort : room < r.length
  · simp only [if_neg hover, if_pos hshort]; rfl
  · simp only [if_neg hover, if_neg hshort]; rfl

theorem fetch_of_fits (h : r.status = .ok ()) (hl : r.length ≤ room) :
    ((fetch channel room w).value = .ok (r.count, r.buffer.window 40 r.length) ∧
      (fetch channel room w).state = r.state) ∧
      (r.buffer.window 40 r.length).length = r.length := by
  have hcap : Bytes.capacity = 2 ^ 63 - 1 := rfl
  have hlen : r.buffer.length = 40 + room := by simp [hr]
  obtain ⟨hv, hst⟩ := fetch_of_answered hr hroom h
  rw [if_neg (by omega), if_neg (by omega)] at hv
  exact ⟨⟨hv, hst⟩, Bytes.length_window (by omega)⟩

end

/-! ## The client -/

section
variable {channel : Service ω} {append : Appender ω} {w : ω} {r₁ : Reply ω}
  (h₁ : r₁ = deliver channel (blank 0) w)
include h₁

theorem appendCollected_of_failed {s : Status} (h : r₁.status = .error s)
    (hs : s ≠ .bufferTooSmall) (hs' : s ≠ .badBufferSize) :
    (appendCollected channel append w).value = .error (.communicate s) ∧
      (appendCollected channel append w).state = r₁.state := by
  obtain ⟨hv, hst⟩ := queryTotals_of_failed h₁ h (by simp [sizeReply, hs, hs'])
  simp [appendCollected, hv, hst]

variable (hsized : r₁.Sized)
include hsized

theorem appendCollected_of_none (h : r₁.count = 0 ∨ r₁.length = 0) :
    (appendCollected channel append w).value = .ok .noErrorSources ∧
      (appendCollected channel append w).state = r₁.state := by
  obtain ⟨a, hv, hc, hl, hst⟩ := queryTotals_of_sized h₁ hsized
  have ha : a.count = 0 ∨ a.length = 0 := by
    rw [← hc, ← hl] at h
    exact h.imp UInt64.toNat_inj.1 UInt64.toNat_inj.1
  simp [appendCollected, hv, hst, ha]

variable (hc₁ : r₁.count ≠ 0) (hl₁ : r₁.length ≠ 0)
include hc₁ hl₁

variable {v : ω}

theorem appendCollected_of_fetch_error {e : ClientError}
    (hf : (fetch channel r₁.length r₁.state).value = .error e ∧
      (fetch channel r₁.length r₁.state).state = v) :
    (appendCollected channel append w).value = .error e ∧
      (appendCollected channel append w).state = v := by
  obtain ⟨a, hq, ha, hl, hst⟩ := queryTotals_of_some h₁ hsized hc₁ hl₁
  simp [appendCollected, hq, hst, ha, hl, hf]

variable {count : Nat} {block : Bytes}
  (hf : (fetch channel r₁.length r₁.state).value = .ok (count, block) ∧
    (fetch channel r₁.length r₁.state).state = v)
include hf

theorem appendCollected_of_fetch_none (h : count = 0 ∨ block = []) :
    (appendCollected channel append w).value = .ok .noErrorSources ∧
      (appendCollected channel append w).state = v := by
  obtain ⟨a, hq, ha, hl, hst⟩ := queryTotals_of_some h₁ hsized hc₁ hl₁
  simp [appendCollected, hq, hst, ha, hl, hf, h]

variable {n : Nat} (hn : block.length = n) (hcount : count ≠ 0) (hn₀ : n ≠ 0)
include hn hcount hn₀

theorem appendCollected_of_appended (happend : (append block n count v).value = .ok ()) :
    (appendCollected channel append w).value = .ok (.appended count n) ∧
      (appendCollected channel append w).state = (append block n count v).state := by
  obtain ⟨a, hq, ha, hl, hst⟩ := queryTotals_of_some h₁ hsized hc₁ hl₁
  have hblock : block ≠ [] := List.ne_nil_of_length_pos (by omega)
  simp [appendCollected, hq, hst, ha, hl, hf, hn, hcount, hblock, happend]

theorem appendCollected_of_refused {why : TableError}
    (happend : (append block n count v).value = .error why) :
    (appendCollected channel append w).value = .error (.append why) ∧
      (appendCollected channel append w).state = (append block n count v).state := by
  obtain ⟨a, hq, ha, hl, hst⟩ := queryTotals_of_some h₁ hsized hc₁ hl₁
  have hblock : block ≠ [] := List.ne_nil_of_length_pos (by omega)
  simp [appendCollected, hq, hst, ha, hl, hf, hn, hcount, hblock, happend]

end

end Hest.Client
