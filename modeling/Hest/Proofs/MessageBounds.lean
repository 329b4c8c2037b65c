import Hest.Proofs.DispatcherRules
import Hest.Proofs.MessageFormat

/-!
# The bounds of a message

A message comes from the other side of the channel, so nothing is known of it.  Its header declares
how many bytes of it a handler may see and change; the dispatcher hands out a payload of just these
bytes, and turns away a message that is shorter than it says.

* `runs` lists the handlers that a message runs, each with the payload that it is handed;
  `communicate_watched` says that keeping this list changes nothing.
* A message is `Refused`, and comes back as it is, or `Answered` by one handler.
* `communicate_bounded` says which, for every message, by its length, the length that it declares
  and the handler of its GUID.
-/

namespace Hest.Dispatcher

variable {η ω : Type}

/-! ## The handlers that run -/

/-- Handlers that keep a list of their runs: which one ran, and what it was handed. -/
def watched (serve : η → Service ω) : η → Service (ω × List (η × Bytes)) := fun handler payload =>
  Act.recorded (serve handler payload) fun _ => (handler, payload)

/-- The handlers that a message runs, in order, with their payloads. -/
def runs (d : Dispatcher η) (serve : η → Service ω) (message : Bytes) (w : ω) :
    List (η × Bytes) :=
  (d.communicate (watched serve) message (w, [])).state.2

theorem communicate_watched (d : Dispatcher η) (serve : η → Service ω) (message : Bytes) :
    Act.Projects (d.communicate (watched serve) message) (d.communicate serve message) :=
  d.communicate_compatible .projects _ _ (fun _ _ => .recorded _ _) message

/-! ## The ways in which a message ends -/

/-- The message is refused: no handler runs, and nothing changes. -/
structure Refused (d : Dispatcher η) (serve : η → Service ω) (message : Bytes) (w : ω)
    (status : Status) : Prop where
  value_eq : (d.communicate serve message w).value = ⟨.error status, message⟩
  state_eq : (d.communicate serve message w).state = w
  runs_eq : runs d serve message w = []

/-- The message is answered by `handler`, which works on the `m` bytes behind the header. -/
structure Answered (d : Dispatcher η) (serve : η → Service ω) (message : Bytes) (w : ω)
    (handler : η) (m : Nat) : Prop where
  /-- The payload is inside the message. -/
  room : MessageHeader.size + m ≤ message.length
  /-- This handler runs, once, and is handed the payload. -/
  runs_eq : runs d serve message w = [(handler, message.window MessageHeader.size m)]
  /-- Its result is the answer. -/
  result_eq : (d.communicate serve message w).value.result =
    (serve handler (message.window MessageHeader.size m) w).value.result
  state_eq : (d.communicate serve message w).state =
    (serve handler (message.window MessageHeader.size m) w).state
  /-- What it leaves of the payload is there, and all else is as it was. -/
  payload_eq : (d.communicate serve message w).value.buffer.window MessageHeader.size m =
    (message.window MessageHeader.size m).overlay
      (serve handler (message.window MessageHeader.size m) w).value.buffer
  header_eq : (d.communicate serve message w).value.buffer.take MessageHeader.size =
    message.take MessageHeader.size
  rest_eq : (d.communicate serve message w).value.buffer.drop (MessageHeader.size + m) =
    message.drop (MessageHeader.size + m)

section
variable {d : Dispatcher η} {serve : η → Service ω} {message : Bytes} {w : ω}

/-- A dispatcher that turns a message away from all handlers refuses it. -/
theorem refused_of {status : Status}
    (h : ∀ {τ : Type} (serve : η → Service τ) (v : τ),
      (d.communicate serve message v).value = ⟨.error status, message⟩ ∧
        (d.communicate serve message v).state = v) :
    Refused d serve message w status :=
  ⟨(h serve w).1, (h serve w).2, congrArg Prod.snd (h (watched serve) (w, [])).2⟩

theorem answered_of_handler {header : MessageHeader}
    (hread : MessageHeader.readFrom message = .ok header)
    (hsize : MessageHeader.size ≤ message.length)
    (hroom : header.payloadLength.toNat ≤ message.length - MessageHeader.size) {handler : η}
    (hd : d.handler? header.recipient = some handler) :
    Answered d serve message w handler header.payloadLength.toNat := by
  obtain ⟨payload, e, hpayload, he, hvalue, hstate⟩ :=
    communicate_of_handler hread hroom hd serve w
  obtain ⟨_, e', rfl, he', -, hstate'⟩ :=
    communicate_of_handler hread hroom hd (watched serve) (w, [])
  generalize header.payloadLength.toNat = m at hroom hpayload he' ⊢
  have hinside : MessageHeader.size + m ≤ message.length := by omega
  -- the message is its header, the payload, and what is behind the payload
  have hparts : message = message.take MessageHeader.size ++
      (payload ++ message.drop (MessageHeader.size + m)) := by
    rw [hpayload, Bytes.window, ← List.drop_drop, List.take_append_drop, List.take_append_drop]
  have hfront : (message.take MessageHeader.size).length = MessageHeader.size := by
    simp [hsize]
  have hlength : payload.length = m := by rw [hpayload, Bytes.length_window hinside]
  have hbuffer : (d.communicate serve message w).value.buffer =
      message.take MessageHeader.size ++
        (payload.overlay e.value.buffer ++ message.drop (MessageHeader.size + m)) := by
    have hfield := Bytes.overlayAt_field (a := message.take MessageHeader.size)
      (b := message.drop (MessageHeader.size + m)) (Bytes.length_overlay payload e.value.buffer)
    rw [hfront, ← hparts] at hfield
    rw [hvalue, hfield]
  refine ⟨hinside, ?_, ?_, ?_, ?_, ?_, ?_⟩
  · rw [runs, hstate', he']; rfl
  · rw [hvalue, he, hpayload]
  · rw [hstate, he, hpayload]
  · rw [hbuffer, Bytes.window_skip (Nat.le_of_eq hfront), hfront, Nat.sub_self,
      Bytes.window_head (by rw [Bytes.length_overlay, hlength]), he, hpayload]
  · rw [hbuffer, List.take_left' hfront]
  · rw [hbuffer, ← List.drop_drop, List.drop_left' hfront,
      List.drop_left' (by rw [Bytes.length_overlay, hlength])]

end

/-! ## All messages -/

/-- **A handler sees and changes nothing of a message but its payload.**  For every dispatcher, all
handlers and every message:

* a message that is too short for a header is refused as badly sized;
* else the header holds a GUID and a length `m` of 64 bits, and a message with fewer than `m` bytes
  behind the header is refused as badly sized, whatever the GUID;
* else a message whose GUID has no handler is refused as not found;
* else the handler of the GUID answers it, alone and once, on the `m` bytes behind the header. -/
theorem communicate_bounded (d : Dispatcher η) (serve : η → Service ω) (message : Bytes) (w : ω) :
    (message.length < MessageHeader.size → Refused d serve message w .badBufferSize) ∧
    (MessageHeader.size ≤ message.length → ∃ guid m, message.window 0 16 = Guid.encode guid ∧
      LittleEndian.decode (message.window 16 8) = m ∧ m < 2 ^ 64 ∧
      (message.length - MessageHeader.size < m → Refused d serve message w .badBufferSize) ∧
      (m ≤ message.length - MessageHeader.size →
        (d.handler? guid = none → Refused d serve message w .notFound) ∧
        ∀ handler, d.handler? guid = some handler → Answered d serve message w handler m)) := by
  constructor
  · intro hshort
    exact refused_of (communicate_of_unread (MessageHeader.recovers.refused message hshort) d)
  · intro hsize
    obtain ⟨header, hread, -⟩ := MessageHeader.recovers.rewritten message hsize
    obtain ⟨-, hguid, hlength⟩ := MessageHeader.readFrom_eq_ok_iff.1 hread
    refine ⟨header.recipient, _, hguid, hlength, header.payloadLength.toNat_lt, ?_, fun hroom => ?_⟩
    · intro hlong
      exact refused_of (communicate_of_long hread hlong d)
    · exact ⟨fun hnone => refused_of (communicate_of_none hread hroom hnone),
        fun handler => answered_of_handler hread hsize hroom⟩

end Hest.Dispatcher
