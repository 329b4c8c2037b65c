import Hest.Act
import Hest.Message
import Hest.Status

/-!
# The message dispatcher

Handlers are registered under GUIDs, at most one under each.  A message runs the handler of the GUID
in its header, on exactly the payload that the header declares; the rest of the buffer is kept
whatever the handler does.
-/

namespace Hest

/-- The registered handlers, oldest first. -/
structure Dispatcher (η : Type) where
  routes : List (Guid × η) := []

/-- Works on a payload or a whole message in place, or fails with a status. -/
abbrev Service (ω : Type) := Bytes → Act ω (InPlace Status Unit)

namespace Dispatcher

variable {η ω : Type}

/-- The handler registered under a GUID. -/
def handler? (d : Dispatcher η) (guid : Guid) : Option η := d.routes.lookup guid

/-- Registers a handler under a GUID that has none. -/
def register (guid : Guid) (handler : η) : Act (Dispatcher η) (Except Status Unit) := do
  let d ← Act.get
  match d.handler? guid with
  | some _ =>
    .say .error .messages s!"An MMI handler for {guid.text} is already registered"
    return .error .alreadyStarted
  | none =>
    Act.set { routes := d.routes ++ [(guid, handler)] }
    .say .debug .messages s!"Registered MMI handler for {guid.text}"
    return .ok ()

/-- Removes the handler of a GUID. -/
def unregister (guid : Guid) : Act (Dispatcher η) (Except Status Unit) := do
  let d ← Act.get
  match d.handler? guid with
  | none => return .error .notFound
  | some _ =>
    Act.set { routes := d.routes.eraseP (·.1 = guid) }
    return .ok ()

/-- Runs the handler that a message is for on the payload of the message. -/
def communicate (d : Dispatcher η) (serve : η → Service ω) : Service ω := fun message => do
  match MessageHeader.readFrom message with
  | .error _ => return ⟨.error .badBufferSize, message⟩
  | .ok header =>
    let length := header.payloadLength.toNat
    let available := message.length - MessageHeader.size
    if available < length then
      .say .error .messages
        (s!"MM communication for {header.recipient.text} declares {length} bytes, " ++
          s!"buffer holds {available}")
      return ⟨.error .badBufferSize, message⟩
    else
      match d.handler? header.recipient with
      | none =>
        .say .error .messages s!"No MMI handler for {header.recipient.text}"
        return ⟨.error .notFound, message⟩
      | some handler =>
        .say .trace .messages s!"Dispatching {length} byte payload to {header.recipient.text}"
        let payload := message.window MessageHeader.size length
        let reply ← serve handler payload
        return ⟨reply.result, message.overlayAt MessageHeader.size (payload.overlay reply.buffer)⟩

end Dispatcher

end Hest
