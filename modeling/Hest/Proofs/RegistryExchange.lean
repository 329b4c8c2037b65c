import Hest.Proofs.FixedExchange
import Hest.Proofs.Snapshot

/-!
# The client over a changing registry

Between the two messages of the client, and while they are answered, the producers of a registry may
change what they report, and the registry.  The second message has room for what the first
collection declared, so that the second collection may find it too small; nothing else goes wrong
between the two sides.

* `answer_announces`: a collection announces what it declares, and is refused only for want of room.
* `Replied` and `replied`: what a message brings back.
* `conclude_ends`: the client ends as over any channel that fails only for want of room.
* `handed` are the payloads that handlers are handed.
* `conclude_collected` joins these.
-/

namespace Hest

variable {η ω π σ : Type}

/-! ## What a collection announces -/

namespace Collection

theorem gather_announces (roster : Roster ω π) (producers : List π) (payload : Bytes) (w : ω)
    {declared : Totals} (hd : (probe roster 0 .zero producers w).value = declared) :
    ∃ region, region.length = payload.length - Announcement.size ∧
      (gather roster producers payload w).value.buffer =
        (Announcement.ofTotals declared).encode ++ region := by
  by_cases h0 : declared.length = 0
  · exact ⟨_, List.length_drop, by rw [(gather_of_zero hd payload h0).1]⟩
  by_cases hroom : payload.length - Announcement.size < declared.length
  · exact ⟨_, List.length_drop, by rw [(gather_of_small hd hroom).1]⟩
  · obtain ⟨e, he, hvalue, -⟩ := gather_of_fits hd h0 (Nat.le_of_not_lt hroom)
    refine ⟨e.value.2, ?_, by rw [hvalue]⟩
    rw [he, length_fill roster 0 (by decide), List.length_drop]

end Collection

namespace Registry

open Collection

variable (conduct : π → Option Bytes → Registry π → σ → Conduct π σ)

/-- The totals that a collection on a registry declares. -/
def declared (s : Registry π × σ) : Totals :=
  (probe (roster conduct) 0 .zero s.1.producers s).value

theorem fits_declared (s : Registry π × σ) : Fits (declared conduct s) :=
  fits_probe _ _ fits_zero _ _

/-- **A collection announces what it declares**, and is refused only for want of room. -/
theorem answer_announces (s : Registry π × σ) (payload : Bytes)
    (h : Announcement.size ≤ payload.length) :
    ∃ region, region.length = payload.length - Announcement.size ∧
      (answer (roster conduct) payload s).value.buffer =
        (Announcement.ofTotals (declared conduct s)).encode ++ region ∧
      ((declared conduct s).length ≤ payload.length - Announcement.size →
        (answer (roster conduct) payload s).value.result = .ok ()) ∧
      (payload.length - Announcement.size < (declared conduct s).length →
        (answer (roster conduct) payload s).value.result = .error .bufferTooSmall) := by
  have hcollect : (collect (roster conduct) payload s).value =
      (gather (roster conduct) s.1.producers payload s).value :=
    (collect_of_registry h rfl rfl).1
  obtain ⟨region, hregion, hbuffer⟩ :=
    gather_announces (roster conduct) s.1.producers payload s rfl
  have hdeclares := gather_declares (roster conduct) s.1.producers payload s rfl
  rw [← hcollect] at hbuffer hdeclares
  rcases hdeclares with ⟨hroom, written, hresult⟩ | ⟨hroom, hresult⟩
  · rw [(answer_of_ok hresult).1]
    exact ⟨region, hregion, hbuffer, fun _ => rfl, fun hsmall => absurd hsmall (Nat.not_lt.2 hroom)⟩
  · rw [(answer_of_error hresult).1]
    exact ⟨region, hregion, hbuffer, fun hfits => absurd hroom (Nat.not_lt.2 hfits), fun _ => rfl⟩

end Registry

namespace Client

open Collection Registry

/-! ## What a message brings back -/

/-- The reply to a message with `room` bytes for the descriptors of a registry. -/
structure Replied (conduct : π → Option Bytes → Registry π → σ → Conduct π σ) (s : Registry π × σ)
    (room : Nat) (r : Reply (Registry π × σ)) : Prop where
  ok : (declared conduct s).length ≤ room → r.status = .ok ()
  tooSmall : room < (declared conduct s).length → r.status = .error .bufferTooSmall
  count_eq : r.count = (declared conduct s).count
  length_eq : r.length = (declared conduct s).length
  state_eq : r.state = (answer (roster conduct) (Bytes.zeros (16 + room)) s).state
  /-- Behind the header is what the collection left in the payload. -/
  payload_eq : r.buffer.drop MessageHeader.size =
    (answer (roster conduct) (Bytes.zeros (16 + room)) s).value.buffer

section
variable {conduct : π → Option Bytes → Registry π → σ → Conduct π σ} {s : Registry π × σ}
  {room : Nat} {r : Reply (Registry π × σ)} (h : Replied conduct s room r)
include h

theorem Replied.totals_eq : ⟨r.count, r.length⟩ = declared conduct s := by
  rw [h.count_eq, h.length_eq]

theorem Replied.sized : r.Sized := by
  rcases Nat.lt_or_ge room (declared conduct s).length with hsmall | hroom
  · exact .inr (.inl (h.tooSmall hsmall))
  · exact .inl (h.ok hroom)

end

section
variable {d : Dispatcher η} {serve : η → Service (Registry π × σ)} {handler : η}
  (hd : d.handler? descriptorService = some handler)
  {conduct : π → Option Bytes → Registry π → σ → Conduct π σ}
  (hserve : serve handler = answer (roster conduct))
include hd hserve

theorem replied (s : Registry π × σ) {room : Nat} (hroom : 16 + room < 2 ^ 64) :
    Replied conduct s room (deliver (d.communicate serve) (blank room) s) := by
  obtain ⟨e, he, hdeliver⟩ := deliver_communicate hd serve hroom s
  rw [hserve] at he
  have hsize : (Bytes.zeros (16 + room)).length - Announcement.size = room := by
    simp [Announcement.size]
  obtain ⟨region, hregion, hbuffer, hok, hsmall⟩ :=
    answer_announces conduct s (Bytes.zeros (16 + room)) (by simp [Announcement.size])
  rw [hsize] at hregion hok hsmall
  rw [← he] at hbuffer hok hsmall
  have hover : (Bytes.zeros (16 + room)).overlay e.value.buffer = e.value.buffer :=
    Bytes.overlay_of_length_eq (by simp [hbuffer, hregion, Announcement.size])
  rw [hover] at hdeliver
  obtain ⟨hcount, hlength⟩ := Reply.numbers (fits_declared conduct s)
    (r := deliver (d.communicate serve) (blank room) s) (by rw [hdeliver, ← hbuffer])
  refine ⟨?_, ?_, hcount, hlength, ?_, ?_⟩
  · rw [hdeliver]; exact hok
  · rw [hdeliver]; exact hsmall
  · rw [hdeliver, he]
  · rw [hdeliver, ← he]
    exact List.drop_left' (MessageHeader.length_encode _)

end

/-! ## The run -/

section
variable {d : Dispatcher η} {serve : η → Service (Registry π × σ)} {handler : η}
  (hd : d.handler? descriptorService = some handler)
  {conduct : π → Option Bytes → Registry π → σ → Conduct π σ}
  (hserve : serve handler = answer (roster conduct))
include hd hserve

/-- **The client finds a channel that fails only for want of room.** -/
theorem conclude_ends (s : Registry π × σ) (t : Table) :
    let first := declared conduct s
    let s₁ := (answer (roster conduct) (Bytes.zeros 16) s).state
    let second := declared conduct s₁
    let reply := (answer (roster conduct) (Bytes.zeros (16 + first.length)) s₁).value
    Ending first second (reply.buffer.window 16 second.length) t
      (conclude (d.communicate serve) s t) := by
  intro first s₁ second reply
  obtain ⟨r₁, hr₁⟩ : ∃ r, r = deliver (d.communicate serve) (blank 0) s := ⟨_, rfl⟩
  have h₁ : Replied conduct s 0 r₁ := hr₁ ▸ replied hd hserve s (by decide)
  have hstate : r₁.state = s₁ := h₁.state_eq
  have hfirst : first = ⟨r₁.count, r₁.length⟩ := h₁.totals_eq.symm
  rw [hfirst]
  by_cases hsent : r₁.count = 0 ∨ r₁.length = 0 ∨ Bytes.capacity < r₁.length + 40
  · exact ending_of_unsent hr₁ h₁.sized _ _ hsent
  simp only [not_or, Nat.not_lt] at hsent
  obtain ⟨hc, hl, hroom⟩ := hsent
  have hcap : Bytes.capacity = 2 ^ 63 - 1 := rfl
  -- the second message meets the registry as the first collection left it
  obtain ⟨r₂, hr₂⟩ : ∃ r, r = deliver (d.communicate serve) (blank r₁.length) r₁.state := ⟨_, rfl⟩
  have h₂ : Replied conduct s₁ r₁.length r₂ := by
    rw [hr₂, ← hstate]
    exact replied hd hserve r₁.state (by omega)
  have hsecond : second = ⟨r₂.count, r₂.length⟩ := h₂.totals_eq.symm
  have hblock : reply.buffer.window 16 second.length = r₂.buffer.window 40 r₂.length := by
    have hpayload : r₂.buffer.drop MessageHeader.size = reply.buffer := by
      rw [h₂.payload_eq, h₁.length_eq]
    rw [← hpayload, Bytes.window_drop, MessageHeader.size, h₂.length_eq]
  rw [hblock, hsecond]
  refine ending_of_sent hr₁ h₁.sized hc hl hroom hr₂ ?_ ?_
  · rw [h₂.length_eq]; exact h₂.ok
  · rw [h₂.length_eq]; exact h₂.tooSmall

end

/-! ## What the handlers are handed -/

/-- The payloads that handlers are handed in a run of the client. -/
def handed (d : Dispatcher η) (serve : η → Service ω) (w : ω) (t : Table) : List Bytes :=
  (session (d.communicate fun h => noted (serve h)) ((w, []), t)).state.1.2

section
variable {d : Dispatcher η} {serve : η → Service ω} {handler : η}
  (hd : d.handler? descriptorService = some handler)
include hd

theorem foldl_blank {rooms : List Nat} (h : ∀ room ∈ rooms, room + 40 ≤ Bytes.capacity)
    (v : ω × List Bytes) :
    ((rooms.map blank).foldl (fun v message =>
      (deliver (d.communicate fun h => noted (serve h)) message v).state) v).2 =
        v.2 ++ rooms.map fun room => Bytes.zeros (16 + room) := by
  induction rooms generalizing v with
  | nil => simp
  | cons room rooms ih =>
    have hcap : Bytes.capacity = 2 ^ 63 - 1 := rfl
    have hroom := h room List.mem_cons_self
    obtain ⟨e, he, hdeliver⟩ :=
      deliver_communicate hd (fun h => noted (serve h)) (by omega : 16 + room < 2 ^ 64) v
    have hpayload : e.state.2 = v.2 ++ [Bytes.zeros (16 + room)] := by rw [he]; rfl
    rw [List.map_cons, List.foldl_cons, hdeliver, ih fun r hr => h r (List.mem_cons_of_mem _ hr),
      hpayload, List.map_cons, List.append_assoc, List.singleton_append]

/-- The handler is handed the payloads of the messages that the client sends. -/
theorem handed_eq {w : ω} {t : Table} {rooms : List Nat}
    (h : ∀ room ∈ rooms, room + 40 ≤ Bytes.capacity)
    (hsent : (conclude (d.communicate serve) w t).requests = rooms.map blank) :
    handed d serve w t = rooms.map fun room => Bytes.zeros (16 + room) := by
  have hfollows (message : Bytes) : Act.Follows Prod.fst
      (d.communicate (fun h => noted (serve h)) message) (d.communicate serve message) :=
    d.communicate_compatible (.follows Prod.fst) _ _
      (fun h payload => (noted_projects (serve h) payload).follows) message
  rw [handed, state_session, conclude_follows hfollows, hsent]
  exact foldl_blank hd h (w, [])

end

/-! ## The exchange -/

/-- What a run of the client can come to, when its first collection declares `first`, and one right
after it, with room for that, declares `second` and leaves `block` at the start of its region. -/
structure Exchanged (first second : Totals) (block : Bytes) (handed : List Bytes) (t : Table)
    (c : Conclusion) : Prop where
  /-- The region of the second collection is what the first one declared; more bytes than that, and
  nothing else, make the channel fail. -/
  calls : handed = [Bytes.zeros 16] ∧ (∀ s, c.answer ≠ .error (.communicate s)) ∨
    handed = [Bytes.zeros 16, Bytes.zeros (16 + first.length)] ∧
      (c.answer = .error (.communicate .bufferTooSmall) ↔ first.length < second.length)
  communicate : ∀ s, c.answer = .error (.communicate s) → s = .bufferTooSmall
  not_tooShort : ∀ needed actual, c.answer ≠ .error (.reply (.tooShort needed actual))
  lengthOverflow : c.answer = .error (.reply .lengthOverflow) →
    first.count ≠ 0 ∧ 2 ^ 64 - 41 < first.length
  outOfMemory : c.answer = .error .outOfMemory → 2 ^ 63 - 1 < first.length + 40
  /-- What is appended is what the second collection declared, from the start of its region. -/
  appended : ∀ count length, c.answer = .ok (.appended count length) →
    count = second.count ∧ length = second.length ∧ 0 < count ∧ 0 < length ∧
      length ≤ first.length ∧ (Table.append block length count t).value = .ok () ∧
      c.table = (Table.append block length count t).state
  /-- Else the table is as it was. -/
  kept : (∀ count length, c.answer ≠ .ok (.appended count length)) → c.table = t

theorem Ending.exchanged {first second : Totals} {block : Bytes} {handed : List Bytes} {t : Table}
    {c : Conclusion} (h : Ending first second block t c)
    (hhanded : ∀ rooms : List Nat, (∀ room ∈ rooms, room + 40 ≤ Bytes.capacity) →
      c.requests = rooms.map blank → handed = rooms.map fun room => Bytes.zeros (16 + room)) :
    Exchanged first second block handed t c := by
  have hone : c.requests = [blank 0] → handed = [Bytes.zeros 16] := hhanded [0] (by decide)
  have htwo (hroom : first.length + 40 ≤ Bytes.capacity) :
      c.requests = [blank 0, blank first.length] →
        handed = [Bytes.zeros 16, Bytes.zeros (16 + first.length)] :=
    hhanded [0, first.length] (by simpa using ⟨by decide, hroom⟩)
  refine ⟨?_, ?_, ?_, ?_, ?_, ?_, ?_⟩
  · cases h with
    | none | overflow | large => exact .inl ⟨hone rfl, by simp⟩
    | grown hroom hgrown => exact .inr ⟨htwo hroom rfl, by simp [hgrown]⟩
    | vanished hroom hle | appended hroom hle | refused hroom hle =>
      exact .inr ⟨htwo hroom rfl, by simp [hle]⟩
  · cases h <;> simp
  · cases h <;> simp
  · cases h with
    | overflow hc hover => exact fun _ => ⟨hc, by omega⟩
    | _ => simp
  · cases h with
    | large hlarge => exact fun _ => hlarge
    | _ => simp
  · cases h with
    | appended _ hle hc hl ha =>
      rintro _ _ ⟨⟩
      exact ⟨rfl, rfl, Nat.pos_of_ne_zero hc, Nat.pos_of_ne_zero hl, hle, ha, rfl⟩
    | _ => simp
  · cases h with
    | appended => exact fun hno => absurd rfl (hno _ _)
    | _ => exact fun _ => rfl

/-- **Between the client and the collection nothing goes wrong but a want of room.**  Over every
registry, whatever its producers report, write and change when they are asked: the client fails at
the channel just if the second collection declares more bytes than the first, which is all that the
room of its message depends on; its other failures are a total that no message can carry, and a
table that refuses the descriptors; and it appends what the second collection declared. -/
theorem conclude_collected {d : Dispatcher η} {serve : η → Service (Registry π × σ)} {handler : η}
    (hd : d.handler? descriptorService = some handler)
    {conduct : π → Option Bytes → Registry π → σ → Conduct π σ}
    (hserve : serve handler = answer (roster conduct)) (s : Registry π × σ) (t : Table) :
    let first := declared conduct s
    let s₁ := (answer (roster conduct) (Bytes.zeros 16) s).state
    let second := declared conduct s₁
    let reply := (answer (roster conduct) (Bytes.zeros (16 + first.length)) s₁).value
    Exchanged first second (reply.buffer.window 16 second.length) (handed d serve s t) t
      (conclude (d.communicate serve) s t) :=
  (conclude_ends hd hserve s t).exchanged fun _ => handed_eq hd

/-- The producers of a registry that grows under them, behind the only handler. -/
def swelling (_ : Unit) : Service (Registry Nat × Nat) := answer (roster unruly)

theorem conclude_collected_unruly : lone.handler? descriptorService = some () ∧
    swelling () = answer (roster unruly) ∧
    let first := declared unruly (crowd, 0)
    let s₁ := (answer (roster unruly) (Bytes.zeros 16) (crowd, 0)).state
    let second := declared unruly s₁
    let reply := (answer (roster unruly) (Bytes.zeros (16 + first.length)) s₁).value
    Exchanged first second (reply.buffer.window 16 second.length)
      (handed lone swelling (crowd, 0) ⟨.standard, .empty⟩) ⟨.standard, .empty⟩
      (conclude (lone.communicate swelling) (crowd, 0) ⟨.standard, .empty⟩) := by
  have hd : lone.handler? descriptorService = some () := by decide
  have hserve : swelling () = answer (roster unruly) := rfl
  exact ⟨hd, hserve, conclude_collected hd hserve (crowd, 0) ⟨.standard, .empty⟩⟩

-- four producers become six when they are first asked, and those need more room
example : (conclude (lone.communicate swelling) (crowd, 0) ⟨.standard, .empty⟩).answer =
    .error (.communicate .bufferTooSmall) := by
  rfl

end Client

end Hest
