import Hest.Collection
import Hest.Proofs.Layout
import Hest.Registry

/-!
# The rules of a collection

The ways in which a collection ends, one lemma for each, with the payload and the state that it
leaves; the totals that it announces always fit their fields.
-/

namespace Hest

/-- The producers of a registry, in the order of installation. -/
def Registry.producers {π : Type} (r : Registry π) : List π := r.installed.map (·.2)

/-- A look-up finds these producers; that there are none is no failure. -/
def Roster.Finds {ω π : Type} (roster : Roster ω π) (w : ω) (producers : List π) : Prop :=
  (roster.locate w).value = .ok producers ∨
    ((roster.locate w).value = .error .notFound ∧ producers = [])

namespace Collection

open LittleEndian

variable {ω π : Type}

/-! ## Totals -/

/-- Both numbers of totals fit in 64 bits. -/
def Fits (t : Totals) : Prop := t.count < 2 ^ 64 ∧ t.length < 2 ^ 64

theorem fits_tally (index : Nat) {total : Totals} (h : Fits total)
    (outcome : Except Status Report) : Fits (tally index total outcome).1 := by
  unfold tally
  split
  · split
    · rename_i sum hsum
      unfold Totals.add? at hsum
      split at hsum
      · cases hsum; assumption
      · cases hsum
    · exact h
  · exact h
  · exact h

/-- **The sums of the first pass stay within 64 bits.** -/
theorem fits_probe (roster : Roster ω π) (index : Nat) {total : Totals} (h : Fits total)
    (producers : List π) (w : ω) : Fits (probe roster index total producers w).value := by
  induction producers generalizing index total w with
  | nil => exact h
  | cons p ps ih => exact ih _ (fits_tally index h _) _

theorem fits_zero : Fits .zero := by simp [Fits, Totals.zero]

theorem ofTotals_toNat {t : Totals} (h : Fits t) :
    (Announcement.ofTotals t).count.toNat = t.count ∧
      (Announcement.ofTotals t).length.toNat = t.length :=
  ⟨UInt64.toNat_ofNat_of_lt' h.1, UInt64.toNat_ofNat_of_lt' h.2⟩

theorem encode_ofTotals {t : Totals} (h : Fits t) :
    (Announcement.ofTotals t).encode = encode 8 t.count ++ encode 8 t.length := by
  obtain ⟨hcount, hlength⟩ := ofTotals_toNat h
  rw [Announcement.encode, hcount, hlength]

theorem countUpTo_eq (a b : Nat) : countUpTo a b = min (a + b) (2 ^ 64 - 1) := rfl

/-! ## The ways to end -/

section
variable {roster : Roster ω π} {producers : List π} {payload : Bytes} {w : ω} {declared : Totals}
  (hd : (probe roster 0 .zero producers w).value = declared)
include hd

theorem gather_of_zero (payload : Bytes) (h0 : declared.length = 0) :
    (gather roster producers payload w).value = ⟨.ok ⟨declared, .zero⟩,
      (Announcement.ofTotals declared).encode ++ payload.drop Announcement.size⟩ ∧
    (gather roster producers payload w).state = (probe roster 0 .zero producers w).state := by
  simp [gather, hd, h0]

theorem gather_of_small (hs : payload.length - Announcement.size < declared.length) :
    (gather roster producers payload w).value =
      ⟨.error (.bufferTooSmall declared.length (payload.length - Announcement.size)),
        (Announcement.ofTotals declared).encode ++ payload.drop Announcement.size⟩ ∧
    (gather roster producers payload w).state = (probe roster 0 .zero producers w).state := by
  have h0 : declared.length ≠ 0 := by omega
  simp [gather, hd, h0, hs]

theorem gather_of_fits (h0 : declared.length ≠ 0)
    (hs : declared.length ≤ payload.length - Announcement.size) :
    ∃ e, e = fill roster 0 .zero (payload.drop Announcement.size) producers
        (probe roster 0 .zero producers w).state ∧
      (gather roster producers payload w).value = ⟨.ok ⟨declared, e.value.1⟩,
        (Announcement.ofTotals declared).encode ++ e.value.2⟩ ∧
      (gather roster producers payload w).state = e.state := by
  have hs' : ¬payload.length - Announcement.size < declared.length := by omega
  refine ⟨_, rfl, ?_⟩
  simp only [gather, Act.value_bind, Act.state_bind, hd, h0, if_false, List.length_drop, hs']
  split <;> simp

end

section
variable {roster : Roster ω π} {payload : Bytes} {w : ω}

theorem collect_of_located (h : Announcement.size ≤ payload.length) {producers : List π}
    (hl : (roster.locate w).value = .ok producers) :
    (collect roster payload w).value =
      (gather roster producers payload (roster.locate w).state).value ∧
    (collect roster payload w).state =
      (gather roster producers payload (roster.locate w).state).state := by
  simp [collect, Nat.not_lt.2 h, hl]

theorem collect_of_notFound (h : Announcement.size ≤ payload.length)
    (hl : (roster.locate w).value = .error .notFound) :
    (collect roster payload w).value =
      (gather roster [] payload (roster.locate w).state).value ∧
    (collect roster payload w).state =
      (gather roster [] payload (roster.locate w).state).state := by
  simp [collect, Nat.not_lt.2 h, hl]

theorem size_of_ok {report : Collected} (h : (collect roster payload w).value.result = .ok report) :
    Announcement.size ≤ payload.length := by
  refine Nat.le_of_not_lt fun hsize => ?_
  rw [collect, if_pos hsize] at h
  cases h

/-- Producers that cannot be looked up leave the payload as it is. -/
theorem collect_of_unavailable (h : Announcement.size ≤ payload.length) {status : Status}
    (hl : (roster.locate w).value = .error (.unavailable status)) :
    (collect roster payload w).value = ⟨.error (.lookup status), payload⟩ ∧
    (collect roster payload w).state = (roster.locate w).state := by
  simp [collect, Nat.not_lt.2 h, hl]

/-- The producers that are found are collected, none of them too. -/
theorem collect_of_found (h : Announcement.size ≤ payload.length) {producers : List π}
    (hf : roster.Finds w producers) :
    (collect roster payload w).value =
      (gather roster producers payload (roster.locate w).state).value ∧
    (collect roster payload w).state =
      (gather roster producers payload (roster.locate w).state).state := by
  rcases hf with hl | ⟨hl, rfl⟩
  · exact collect_of_located h hl
  · exact collect_of_notFound h hl

theorem collect_of_registry (h : Announcement.size ≤ payload.length) {r : Registry π}
    (hl : (roster.locate w).value = r.locate) (hw : (roster.locate w).state = w) :
    (collect roster payload w).value = (gather roster r.producers payload w).value ∧
    (collect roster payload w).state = (gather roster r.producers payload w).state := by
  have hf : roster.Finds w r.producers := by
    by_cases hempty : r.installed = []
    · exact .inr (by simp [hl, Registry.locate, Registry.isEmpty, Registry.size, hempty,
        Registry.producers])
    · exact .inl (by simp [hl, Registry.locate, Registry.isEmpty, Registry.size, hempty,
        Registry.producers])
  have hend := collect_of_found h hf
  rwa [hw] at hend

theorem answer_of_ok {report : Collected}
    (h : (collect roster payload w).value.result = .ok report) :
    (answer roster payload w).value = ⟨.ok (), (collect roster payload w).value.buffer⟩ ∧
    (answer roster payload w).state = (collect roster payload w).state := by
  simp [answer, h]

theorem answer_of_error {e : CollectError}
    (h : (collect roster payload w).value.result = .error e) :
    (answer roster payload w).value = ⟨.error e.status, (collect roster payload w).value.buffer⟩ ∧
    (answer roster payload w).state = (collect roster payload w).state := by
  simp [answer, h]

end

end Collection

end Hest
