import Hest.Proofs.FixedExchange

/-!
# Producers that cannot be looked up

A registry that fails a look-up fails with a status of its own.  The collection ends with it before
it writes anything, so the client's message comes back unchanged, with that status.

The client takes two statuses for the reply to a first message without room, and reads the totals in
the message all the same.  Any other status therefore reaches the caller, and these two do not: the
totals in the client's own message are zeros, which stand for no descriptors.

* `deliver_unavailable`: what a message brings back from such a registry.
* `conclude_unavailable`: what the client makes of it, for every status.
-/

namespace Hest.Client

open Collection

variable {η ω π : Type}

/-- The payload of a blank message begins with the announcement of nothing. -/
theorem blank_eq_announcement {room : Nat} (h : 16 + room < 2 ^ 64) : blank room =
    (blankHeader room).encode ++ ((Announcement.ofTotals .zero).encode ++ Bytes.zeros room) := by
  have hzeros : (Announcement.ofTotals .zero).encode = Bytes.zeros 16 := by decide
  rw [blank_eq h, hzeros, Bytes.zeros, Bytes.zeros, Bytes.zeros, List.replicate_append_replicate]

section
variable {d : Dispatcher η} {serve : η → Service ω} {handler : η}
  (hd : d.handler? descriptorService = some handler) {roster : Roster ω π}
  (hserve : serve handler = answer roster) {s : Status} {w : ω}
  (hfails : (roster.locate w).value = .error (.unavailable s))
include hd hserve hfails

/-- **A failed look-up sends a message back as it came**, with the status of the failure. -/
theorem deliver_unavailable {room : Nat} (hroom : 16 + room < 2 ^ 64) :
    deliver (d.communicate serve) (blank room) w =
      ⟨.error s, blank room, (roster.locate w).state⟩ := by
  have hsize : Announcement.size ≤ (Bytes.zeros (16 + room)).length := by
    simp [Announcement.size]
  obtain ⟨hcollect, hlooked⟩ := collect_of_unavailable hsize hfails
  obtain ⟨hanswer, hstate⟩ := answer_of_error (congrArg InPlace.result hcollect)
  rw [hcollect] at hanswer
  obtain ⟨e, he, hdeliver⟩ := deliver_communicate hd serve hroom w
  rw [hserve] at he
  rw [hdeliver, he, hanswer, hstate, hlooked, Bytes.overlay_of_length_eq rfl, ← blank_eq hroom]
  rfl

/-- **A failed look-up reaches the caller**, unless its status is one that a first message may meet
and still carry the totals: then the caller is told that there are no error sources.  The table is
left alone. -/
theorem conclude_unavailable (t : Table) :
    (s ≠ .bufferTooSmall → s ≠ .badBufferSize →
      conclude (d.communicate serve) w t = ⟨.error (.communicate s), [blank 0], t⟩ ∧
        (ClientError.communicate s).status = s) ∧
    (s = .bufferTooSmall ∨ s = .badBufferSize →
      conclude (d.communicate serve) w t = ⟨.ok .noErrorSources, [blank 0], t⟩) := by
  obtain ⟨r, hr⟩ : ∃ r, r = deliver (d.communicate serve) (blank 0) w := ⟨_, rfl⟩
  have hreply : r = ⟨.error s, blank 0, (roster.locate w).state⟩ :=
    hr.trans (deliver_unavailable hd hserve hfails (by decide))
  have hstatus : r.status = .error s := congrArg Reply.status hreply
  constructor
  · intro hsmall hbad
    exact ⟨conclude_of_failed hr hstatus hsmall hbad, rfl⟩
  · intro hsized
    have hbuffer : r.buffer = blank 0 := congrArg Reply.buffer hreply
    obtain ⟨hcount, -⟩ :=
      Reply.numbers fits_zero (hbuffer.trans (blank_eq_announcement (by decide)))
    refine conclude_of_none hr (.inr ?_) (.inl hcount)
    rcases hsized with rfl | rfl
    · exact .inl hstatus
    · exact .inr hstatus

end

/-- The collection of a registry that fails every look-up, behind a handler. -/
def broken (s : Status) (_ : Unit) : Service Unit :=
  answer (Roster.failing (π := Unit) (.unavailable s))

theorem conclude_unavailable_broken :
    (conclude (lone.communicate (broken .deviceError)) () ⟨.standard, .empty⟩ =
        ⟨.error (.communicate .deviceError), [blank 0], ⟨.standard, .empty⟩⟩ ∧
      (ClientError.communicate .deviceError).status = .deviceError) ∧
    conclude (lone.communicate (broken .badBufferSize)) () ⟨.standard, .empty⟩ =
      ⟨.ok .noErrorSources, [blank 0], ⟨.standard, .empty⟩⟩ := by
  have hd : lone.handler? descriptorService = some () := by decide
  exact ⟨(conclude_unavailable hd rfl rfl ⟨.standard, .empty⟩).1 (by decide) (by decide),
    (conclude_unavailable hd rfl rfl ⟨.standard, .empty⟩).2 (.inr rfl)⟩

/-- A registry that fails with the status of a message without room goes unnoticed. -/
theorem unavailable_unnoticed :
    (conclude (lone.communicate (broken .bufferTooSmall)) () ⟨.standard, .empty⟩).answer =
        .ok .noErrorSources ∧
      ¬∀ s t, (conclude (lone.communicate (broken s)) () t).answer = .error (.communicate s) := by
  have hmasked : (conclude (lone.communicate (broken .bufferTooSmall)) ()
      ⟨.standard, .empty⟩).answer = .ok .noErrorSources := rfl
  refine ⟨hmasked, fun h => ?_⟩
  rw [h] at hmasked
  cases hmasked

end Hest.Client
