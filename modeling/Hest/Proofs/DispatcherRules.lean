import Hest.Dispatcher
import Hest.Proofs.Recording

/-!
# The rules of a dispatcher

What a call on a dispatcher does, one lemma for each way, by whether its GUID has a handler: the
answer, and the dispatcher or the message that it leaves.  A message does nothing but what its
handler does, so runs over related handlers are related (`communicate_compatible`).
-/

namespace Hest.Dispatcher

variable {η ω : Type}

/-! ## Registrations -/

section
variable {d : Dispatcher η} {g : Guid} {h : η}

theorem register_of_some {h' : η} (hd : d.handler? g = some h') (h : η) :
    (register g h d).value = .error .alreadyStarted ∧ (register g h d).state = d := by
  simp [register, hd]

theorem register_of_none (hd : d.handler? g = none) (h : η) :
    (register g h d).value = .ok () ∧
      (register g h d).state = { routes := d.routes ++ [(g, h)] } := by
  simp [register, hd]

theorem unregister_of_some (hd : d.handler? g = some h) :
    (unregister g d).value = .ok () ∧
      (unregister g d).state = { routes := d.routes.eraseP (·.1 = g) } := by
  simp [unregister, hd]

theorem unregister_of_none (hd : d.handler? g = none) :
    (unregister g d).value = .error .notFound ∧ (unregister g d).state = d := by
  simp [unregister, hd]

end

/-! ## Messages -/

/-- A dispatcher over related handlers. -/
theorem communicate_compatible (d : Dispatcher η) {τ : Type}
    {R : (α : Type) → Act τ α → Act ω α → Prop} (hR : Act.Compatible R) (serve' : η → Service τ)
    (serve : η → Service ω)
    (h : ∀ handler payload, R _ (serve' handler payload) (serve handler payload))
    (message : Bytes) : R _ (d.communicate serve' message) (d.communicate serve message) := by
  unfold communicate
  split
  · exact hR.pure _
  dsimp only
  split
  · exact hR.bind (hR.say _ _ _) fun _ => hR.pure _
  split
  · exact hR.bind (hR.say _ _ _) fun _ => hR.pure _
  · exact hR.bind (hR.say _ _ _) fun _ => hR.bind (h _ _) fun _ => hR.pure _

/-- A message without a header comes back as it is. -/
theorem communicate_of_unread {message : Bytes} {e : MessageError}
    (hread : MessageHeader.readFrom message = .error e) (d : Dispatcher η) (serve : η → Service ω)
    (w : ω) : (d.communicate serve message w).value = ⟨.error .badBufferSize, message⟩ ∧
      (d.communicate serve message w).state = w := by
  constructor <;> simp [communicate, hread]

/-- So does one that ends before the payload that its header declares. -/
theorem communicate_of_long {message : Bytes} {header : MessageHeader}
    (hread : MessageHeader.readFrom message = .ok header)
    (hlong : message.length - MessageHeader.size < header.payloadLength.toNat) (d : Dispatcher η)
    (serve : η → Service ω) (w : ω) :
    (d.communicate serve message w).value = ⟨.error .badBufferSize, message⟩ ∧
      (d.communicate serve message w).state = w := by
  constructor <;> simp [communicate, hread, hlong]

section
variable {d : Dispatcher η} {message : Bytes} {header : MessageHeader}
  (hread : MessageHeader.readFrom message = .ok header)
  (hroom : header.payloadLength.toNat ≤ message.length - MessageHeader.size)
include hread hroom

/-- A message with a handler, and with the payload that its header declares, is answered by it. -/
theorem communicate_of_handler {handler : η} (hd : d.handler? header.recipient = some handler)
    (serve : η → Service ω) (w : ω) :
    ∃ payload e, payload = message.window MessageHeader.size header.payloadLength.toNat ∧
      e = serve handler payload w ∧
      (d.communicate serve message w).value = ⟨e.value.result,
        message.overlayAt MessageHeader.size (payload.overlay e.value.buffer)⟩ ∧
      (d.communicate serve message w).state = e.state := by
  have hfits : ¬message.length - MessageHeader.size < header.payloadLength.toNat := by omega
  refine ⟨_, _, rfl, rfl, ?_, ?_⟩ <;> simp [communicate, hread, hfits, hd]

/-- A message without a handler comes back as it is. -/
theorem communicate_of_none (hd : d.handler? header.recipient = none) (serve : η → Service ω)
    (w : ω) : (d.communicate serve message w).value = ⟨.error .notFound, message⟩ ∧
      (d.communicate serve message w).state = w := by
  have hfits : ¬message.length - MessageHeader.size < header.payloadLength.toNat := by omega
  constructor <;> simp [communicate, hread, hfits, hd]

end

end Hest.Dispatcher
