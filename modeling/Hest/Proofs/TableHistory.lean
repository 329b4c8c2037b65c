import Hest.Proofs.Recording
import Hest.Proofs.TableRules

/-!
# The history of a table

A run is any sequence of calls on one table, in which each call to publish brings a publisher of its
own.  What happens in a run is kept as a list of events: the answer of each call, and with it every
table that a publisher was shown and how it decided.

* `assembled` is the table that given blocks make: a fresh header in which the length and the number
  of descriptors are written over in place, and the blocks one after another.
* `Kept` is what a run keeps of the table and its history; `kept_performAll` carries it along a run.
* `history_of_run`: as long as no publisher takes it, the table is what the appended blocks make;
  every table that was shown is that, with a checksum; and at most one is taken, after which nothing
  is shown or appended any more.
-/

namespace Hest.Table

variable {ω : Type}

/-! ## Runs and what happens in them -/

/-- A call on a table, by a caller whose publishers work on a state of type `ω`. -/
inductive Call (ω : Type) where
  | append (block : Bytes) (length count : Nat)
  | install (publish : Publisher ω)

/-- A table that a publisher was shown, and how it decided. -/
structure Offer where
  table : Bytes
  verdict : Except Status TableKey

/-- A call and what came of it. -/
inductive Event where
  | append (block : Bytes) (length count : Nat) (result : Except TableError Unit)
  | install (offers : List Offer) (result : Except TableError (Option TableKey))

/-- A publisher that keeps a list of what it was shown. -/
def watched (publish : Publisher ω) : Publisher (ω × List Offer) := fun table =>
  Act.recorded (publish table) (⟨table, ·⟩)

/-- Makes a call and gives what came of it. -/
def perform : Call ω → Act (Table × ω) Event
  | .append block length count => do
    return .append block length count (← Act.onFirst (append block length count))
  | .install publish => do
    let (result, offers) ← Act.withLocal [] (Act.focus (fun s => (s.1.1, s.1.2, s.2))
      (fun s _ => ((s.1, s.2.1), s.2.2)) (install (watched publish)))
    return .install offers result

/-- Makes calls in order and gives their history. -/
def performAll : List (Call ω) → Act (Table × ω) (List Event)
  | [] => pure []
  | c :: cs => do
    let e ← perform c
    let es ← performAll cs
    return e :: es

/-! ## What a history says -/

/-- A block that was appended: `count` descriptors in the first `length` bytes of `block`. -/
structure Addition where
  block : Bytes
  length : Nat
  count : Nat

/-- The bytes that an addition brings to the table. -/
def Addition.bytes (a : Addition) : Bytes := a.block.take a.length

/-- The block that an event added to the table, if the call succeeded. -/
def Event.addition? : Event → Option Addition
  | .append block length count (.ok _) => some ⟨block, length, count⟩
  | _ => none

/-- The tables that publishers took in an event. -/
def Event.publications : Event → List Bytes
  | .append .. => []
  | .install offers _ => (offers.filter (·.verdict.isOk)).map (·.table)

/-- The tables that publishers were shown in an event. -/
def Event.offers : Event → List Offer
  | .append .. => []
  | .install offers _ => offers

/-- The blocks appended so far. -/
def additions (history : List Event) : List Addition := history.filterMap Event.addition?

/-- The tables that publishers took so far. -/
def publications (history : List Event) : List Bytes := history.flatMap Event.publications

/-- The bytes of additions together. -/
def totalLength (as : List Addition) : Nat := (as.map (·.length)).sum

/-- The descriptors of additions together. -/
def totalCount (as : List Addition) : Nat := (as.map (·.count)).sum

/-- The header of the table that additions make: a fresh one, with the length of the table and the
number of descriptors written in their places. -/
def patchedHeader (identity : Identity) (as : List Addition) : Bytes :=
  ((ErrorSourceHeader.new identity).encode.overlayAt DescriptionHeader.lengthOffset
    (LittleEndian.encode 4 (40 + totalLength as))).overlayAt ErrorSourceHeader.sourceCountOffset
    (LittleEndian.encode 4 (totalCount as))

/-- The table that additions make, without a checksum. -/
def assembled (identity : Identity) (as : List Addition) : Bytes :=
  patchedHeader identity as ++ as.flatMap Addition.bytes

/-- A shown table is the one that additions make, but for its checksum, and can be read. -/
structure Genuine (identity : Identity) (as : List Addition) (table : Bytes) : Prop where
  same : ∀ i, i ≠ DescriptionHeader.checksumOffset → table[i]? = (assembled identity as)[i]?
  balanced : Checksum.sum table = 0
  readable : ∃ h, ErrorSourceHeader.readFrom table = .ok h ∧
    h.description.length.toNat = 40 + totalLength as ∧ h.sourceCount.toNat = totalCount as

/-- An event in which nothing was appended, shown or published, because the table was published
before. -/
def Event.Closed : Event → Prop
  | .append block length _ result =>
    result = .error (if usable block length then .alreadyInstalled else .invalidArgument)
  | .install offers result => offers = [] ∧ result = .error .alreadyInstalled

/-! ## One call -/

/-- What one call can do to a table, with the event that it leaves. -/
inductive Step (t : Table) : Event → Table → Prop
  | appended {block length count grown} : t.extend block length count = .ok grown →
      Step t (.append block length count (.ok ())) grown
  | rejected {block length count e} : t.extend block length count = .error e →
      Step t (.append block length count (.error e)) t
  | nothing : t.phase = .empty → Step t (.install [] (.ok none)) t
  | late : t.phase = .installed → Step t (.install [] (.error .alreadyInstalled)) t
  | refused {c status} : t.phase = .building c →
      Step t (.install [⟨c.stamped t.identity, .error status⟩] (.error (.install status))) t
  | published {c key} : t.phase = .building c →
      Step t (.install [⟨c.stamped t.identity, .ok key⟩] (.ok (some key)))
        { t with phase := .installed }

theorem watched_apply (publish : Publisher ω) (table : Bytes) (w : ω) (offers : List Offer) :
    (watched publish table (w, offers)).value = (publish table w).value ∧
      (watched publish table (w, offers)).state =
        ((publish table w).state, offers ++ [⟨table, (publish table w).value⟩]) := by
  simp [watched]

/-- Watching changes neither what publishing does nor what it answers. -/
theorem install_watched (publish : Publisher ω) (t : Table) (w : ω) (offers : List Offer) :
    (install (watched publish) (t, (w, offers))).value = (install publish (t, w)).value ∧
      (install (watched publish) (t, (w, offers))).state.1 = (install publish (t, w)).state.1 ∧
      (install (watched publish) (t, (w, offers))).state.2.1 =
        (install publish (t, w)).state.2 := by
  cases h : t.phase with
  | empty =>
    obtain ⟨hv, hs⟩ := install_empty (watched publish) (w, offers) h
    obtain ⟨hv', hs'⟩ := install_empty publish w h
    simp [hv, hs, hv', hs']
  | installed =>
    obtain ⟨hv, hs⟩ := install_installed (watched publish) (w, offers) h
    obtain ⟨hv', hs'⟩ := install_installed publish w h
    simp [hv, hs, hv', hs']
  | building c =>
    obtain ⟨hwv, hws⟩ := watched_apply publish (c.stamped t.identity) w offers
    cases hp : (publish (c.stamped t.identity) w).value with
    | ok key =>
      obtain ⟨hv, hs⟩ := install_accepted (watched publish) (w, offers) h (hwv.trans hp)
      obtain ⟨hv', hs'⟩ := install_accepted publish w h hp
      simp [hv, hs, hws, hv', hs']
    | error status =>
      obtain ⟨hv, hs⟩ := install_refused (watched publish) (w, offers) h (hwv.trans hp)
      obtain ⟨hv', hs'⟩ := install_refused publish w h hp
      simp [hv, hs, hws, hv', hs']

/-- **A call does one of six things.** -/
theorem step_perform (call : Call ω) (t : Table) (w : ω) :
    Step t (perform call (t, w)).value (perform call (t, w)).state.1 := by
  cases call with
  | append block length count =>
    cases h : t.extend block length count with
    | ok grown =>
      obtain ⟨hv, hs⟩ := append_of_ok h
      simpa [perform, hv, hs] using Step.appended h
    | error e =>
      obtain ⟨hv, hs⟩ := append_of_error h
      simpa [perform, hv, hs] using Step.rejected h
  | install publish =>
    simp only [perform, Act.value_bind, Act.state_bind, Act.value_withLocal, Act.state_withLocal,
      Act.focus, Act.pure_apply]
    cases h : t.phase with
    | empty =>
      obtain ⟨hv, hs⟩ := install_empty (watched publish) (w, []) h
      simpa [hv, hs] using Step.nothing h
    | installed =>
      obtain ⟨hv, hs⟩ := install_installed (watched publish) (w, []) h
      simpa [hv, hs] using Step.late h
    | building c =>
      obtain ⟨hwv, hws⟩ := watched_apply publish (c.stamped t.identity) w []
      cases hp : (publish (c.stamped t.identity) w).value with
      | ok key =>
        obtain ⟨hv, hs⟩ := install_accepted (watched publish) (w, []) h (hwv.trans hp)
        simpa [hv, hs, hws, hp] using Step.published h
      | error status =>
        obtain ⟨hv, hs⟩ := install_refused (watched publish) (w, []) h (hwv.trans hp)
        simpa [hv, hs, hws, hp] using Step.refused h

/-! ## What a run keeps -/

@[simp] theorem additions_concat (history : List Event) (e : Event) :
    additions (history ++ [e]) = additions history ++ e.addition?.toList := by
  cases h : e.addition? <;> simp [additions, h]

@[simp] theorem publications_concat (history : List Event) (e : Event) :
    publications (history ++ [e]) = publications history ++ e.publications := by
  simp [publications]

/-- The phase that a history leads to, with the descriptors of the blocks appended in it. -/
def Reached (history : List Event) : Phase → Prop
  | .empty => additions history = [] ∧ publications history = []
  | .building c => additions history ≠ [] ∧ publications history = [] ∧
      c.descriptors = (additions history).flatMap Addition.bytes ∧
      c.count.toNat = totalCount (additions history)
  | .installed => (publications history).length = 1

/-- What a run from an empty table keeps of its history and of the table. -/
structure Kept (identity : Identity) (history : List Event) (t : Table) : Prop where
  identity_eq : t.identity = identity
  reached : Reached history t.phase
  fits : ∀ a ∈ additions history, a.length ≤ a.block.length
  genuine : ∀ before e, before ++ [e] <+: history → ∀ o ∈ e.offers,
    additions before ≠ [] ∧ Genuine identity (additions before) o.table
  closed : ∀ before e, before ++ [e] <+: history → publications before ≠ [] → e.Closed

theorem kept_nil (identity : Identity) : Kept identity [] { identity } where
  identity_eq := rfl
  reached := ⟨rfl, rfl⟩
  fits := by simp [additions]
  genuine := by simp
  closed := by simp

theorem length_flatMap_bytes {as : List Addition} (h : ∀ a ∈ as, a.length ≤ a.block.length) :
    (as.flatMap Addition.bytes).length = totalLength as := by
  induction as with
  | nil => rfl
  | cons a as ih =>
    have ha : (a.bytes).length = a.length := by
      simp [Addition.bytes, h a (List.mem_cons_self ..)]
    simp only [List.flatMap_cons, List.length_append, ha, totalLength, List.map_cons,
      List.sum_cons]
    rw [ih fun b hb => h b (List.mem_cons_of_mem _ hb), totalLength]

/-- A fresh header written over in place is the header of the table. -/
theorem patchedHeader_eq {c : Contents} {as : List Addition} (identity : Identity)
    (hl : c.descriptors.length = totalLength as) (hc : c.count.toNat = totalCount as) :
    patchedHeader identity as = (c.header identity).encode := by
  have hlength : (UInt32.ofNat (40 + c.descriptors.length)).toNat = 40 + totalLength as := by
    rw [UInt32.toNat_ofNat_of_lt' c.length_lt, hl]
  rw [patchedHeader, ← hlength, ← hc, ErrorSourceHeader.overlayAt_fields]
  rfl

theorem bytes_eq_assembled {c : Contents} {as : List Addition} (identity : Identity)
    (hf : ∀ a ∈ as, a.length ≤ a.block.length) (hd : c.descriptors = as.flatMap Addition.bytes)
    (hc : c.count.toNat = totalCount as) : c.bytes identity = assembled identity as := by
  have hl : c.descriptors.length = totalLength as := by rw [hd, length_flatMap_bytes hf]
  rw [Contents.bytes, assembled, patchedHeader_eq identity hl hc, hd]

/-- **What a publisher is shown is genuine.** -/
theorem genuine_stamped {c : Contents} {as : List Addition} (identity : Identity)
    (hf : ∀ a ∈ as, a.length ≤ a.block.length) (hd : c.descriptors = as.flatMap Addition.bytes)
    (hc : c.count.toNat = totalCount as) : Genuine identity as (c.stamped identity) where
  same i hi := by
    rw [c.stamped_eq_set, List.getElem?_set_ne (Ne.symm hi), bytes_eq_assembled identity hf hd hc]
  balanced := c.sum_stamped identity
  readable := by
    obtain ⟨h, hread, hlen, hcount⟩ := c.readFrom_stamped identity
    exact ⟨h, hread, by rw [hlen, hd, length_flatMap_bytes hf], by rw [hcount, hc]⟩

section
variable {identity : Identity} {history : List Event} {t t' : Table} {e : Event}

theorem reached_step (hr : Reached history t.phase) (s : Step t e t') :
    Reached (history ++ [e]) t'.phase := by
  cases s with
  | appended h =>
    obtain ⟨-, hi, c, rfl, hd, hc⟩ := extend_eq_ok_iff.1 h
    have hbefore : publications history = [] ∧
        t.descriptors = (additions history).flatMap Addition.bytes ∧
        t.sourceCount.toNat = totalCount (additions history) := by
      cases hphase : t.phase with
      | empty =>
        rw [hphase] at hr
        simp [descriptors, sourceCount, hphase, hr.1, hr.2, totalCount]
      | building c =>
        rw [hphase] at hr
        simp [descriptors, sourceCount, hphase, hr.2]
      | installed => simp [isInstalled, hphase] at hi
    obtain ⟨hp, hd', hc'⟩ := hbefore
    refine ⟨by simp [Event.addition?], by simp [hp, Event.publications], ?_, ?_⟩
    · simp [Event.addition?, hd, hd', Addition.bytes]
    · simp [Event.addition?, hc, hc', totalCount]
  | rejected | nothing | late | refused =>
    cases hphase : t.phase <;> rw [hphase] at hr <;>
      simpa [Reached, Event.addition?, Event.publications, Except.isOk, Except.toBool] using hr
  | published h =>
    rw [h] at hr
    simp [Reached, Event.publications, hr.2.1, Except.isOk, Except.toBool]

theorem fits_step (hf : ∀ a ∈ additions history, a.length ≤ a.block.length) (s : Step t e t') :
    ∀ a ∈ additions (history ++ [e]), a.length ≤ a.block.length := by
  intro a ha
  rw [additions_concat, List.mem_append] at ha
  rcases ha with ha | ha
  · exact hf a ha
  · cases s with
    | appended h =>
      obtain ⟨hu, -⟩ := extend_eq_ok_iff.1 h
      simp only [Event.addition?, Option.toList_some, List.mem_singleton] at ha
      subst ha
      exact length_le_of_usable hu
    | _ => simp [Event.addition?] at ha

theorem genuine_step (hk : Kept identity history t) (s : Step t e t') :
    ∀ o ∈ e.offers, additions history ≠ [] ∧ Genuine identity (additions history) o.table := by
  intro o ho
  cases s with
  | refused h | published h =>
    have hr := hk.reached
    rw [h] at hr
    obtain ⟨hne, -, hd, hc⟩ := hr
    simp only [Event.offers, List.mem_singleton] at ho
    subst ho
    rw [hk.identity_eq]
    exact ⟨hne, genuine_stamped identity hk.fits hd hc⟩
  | _ => simp [Event.offers] at ho

theorem closed_step (hr : Reached history t.phase) (s : Step t e t')
    (hp : publications history ≠ []) : e.Closed := by
  have hi : t.phase = .installed := by
    cases hphase : t.phase with
    | empty => rw [hphase] at hr; exact absurd hr.2 hp
    | building c => rw [hphase] at hr; exact absurd hr.2.1 hp
    | installed => rfl
  cases s with
  | appended h =>
    obtain ⟨-, hn, -⟩ := extend_eq_ok_iff.1 h
    simp [isInstalled, hi] at hn
  | @rejected block length count e h =>
    unfold extend at h
    by_cases hu : usable block length
    · simp only [hu, hi] at h; cases h; simp [Event.Closed, hu]
    · simp only [hu] at h; cases h; simp [Event.Closed, hu]
  | late => exact ⟨rfl, rfl⟩
  | nothing h | refused h | published h => rw [hi] at h; cases h

/-- **What holds of a history and its table holds after one more call.** -/
theorem kept_step (hk : Kept identity history t) (s : Step t e t') :
    Kept identity (history ++ [e]) t' where
  identity_eq := by
    cases s with
    | appended h => obtain ⟨-, -, c, rfl, -⟩ := extend_eq_ok_iff.1 h; exact hk.identity_eq
    | _ => exact hk.identity_eq
  reached := reached_step hk.reached s
  fits := fits_step hk.fits s
  -- an event of the longer history is the new one, or it was there before
  genuine before e' hpre := by
    rcases List.prefix_concat_iff.1 hpre with heq | hpre
    · obtain ⟨rfl, he⟩ := List.append_inj' heq rfl
      cases he
      exact genuine_step hk s
    · exact hk.genuine before e' hpre
  closed before e' hpre := by
    rcases List.prefix_concat_iff.1 hpre with heq | hpre
    · obtain ⟨rfl, he⟩ := List.append_inj' heq rfl
      cases he
      exact closed_step hk.reached s
    · exact hk.closed before e' hpre

end

/-- **What a run keeps.** -/
theorem kept_performAll {identity : Identity} {history : List Event} {t : Table} (w : ω)
    (hk : Kept identity history t) (calls : List (Call ω)) :
    Kept identity (history ++ (performAll calls (t, w)).value)
      (performAll calls (t, w)).state.1 := by
  induction calls generalizing history t w with
  | nil => simpa [performAll] using hk
  | cons c cs ih =>
    have hstep := kept_step hk (step_perform c t w)
    simpa [performAll] using ih _ hstep

/-- As long as no publisher took it, the table is what the appended blocks make. -/
theorem Kept.open {identity : Identity} {history : List Event} {t : Table}
    (hk : Kept identity history t) (hp : publications history = []) :
    (additions history = [] → t.phase = .empty) ∧
    (additions history ≠ [] → t.bytes = assembled identity (additions history) ∧
      t.length = 40 + totalLength (additions history) ∧ t.length < 2 ^ 32 ∧
      t.sourceCount.toNat = totalCount (additions history) ∧
      t.bytes[DescriptionHeader.checksumOffset]? = some 0) := by
  have hr := hk.reached
  cases hphase : t.phase with
  | empty =>
    rw [hphase] at hr
    exact ⟨fun _ => rfl, fun hne => absurd hr.1 hne⟩
  | installed =>
    rw [hphase, Reached, hp] at hr
    cases hr
  | building c =>
    rw [hphase] at hr
    obtain ⟨hne, -, hd, hc⟩ := hr
    refine ⟨fun h => absurd h hne, fun _ => ?_⟩
    have hbytes : t.bytes = c.bytes identity := by simp [bytes, hphase, hk.identity_eq]
    have hlen : t.length = 40 + c.descriptors.length := by
      rw [length, hbytes, c.length_bytes]
    refine ⟨by rw [hbytes, bytes_eq_assembled identity hk.fits hd hc], ?_, ?_, ?_, ?_⟩
    · rw [hlen, hd, length_flatMap_bytes hk.fits]
    · rw [hlen]; exact c.length_lt
    · simp [sourceCount, hphase, hc]
    · rw [hbytes, c.getElem?_checksum]

/-- **The history of a table.**  In every run of calls on one table, from empty on:

* as long as no publisher took it, the table is empty if no block was appended, and else it is what
  the appended blocks make, with its true length and number of descriptors;
* every table that a publisher was shown is what the blocks appended before make, with a checksum
  that brings its sum to zero, and is read with that length and number;
* at most one is taken; the table holds nothing from then on, nothing is shown any more, and every
  call is refused. -/
theorem history_of_run (identity : Identity) (calls : List (Call ω)) (w : ω) :
    let run := performAll calls (({ identity } : Table), w)
    let history := run.value
    let t := run.state.1
    (publications history = [] →
      (additions history = [] → t.phase = .empty ∧ t.bytes = [] ∧ t.sourceCount = 0) ∧
      (additions history ≠ [] → t.bytes = assembled identity (additions history) ∧
        t.length = 40 + totalLength (additions history) ∧ t.length < 2 ^ 32 ∧
        t.sourceCount.toNat = totalCount (additions history) ∧
        t.bytes[DescriptionHeader.checksumOffset]? = some 0)) ∧
    (∀ before e, before ++ [e] <+: history → ∀ o ∈ e.offers,
      additions before ≠ [] ∧ Genuine identity (additions before) o.table) ∧
    (publications history).length ≤ 1 ∧
    (publications history ≠ [] → t.isInstalled ∧ t.bytes = [] ∧ t.sourceCount = 0) ∧
    (∀ before e, before ++ [e] <+: history → publications before ≠ [] → e.Closed) := by
  intro run history t
  have hk : Kept identity history t := kept_performAll w (kept_nil identity) calls
  refine ⟨fun hp => ⟨fun ha => ?_, (hk.open hp).2⟩, hk.genuine, ?_, fun hp => ?_, hk.closed⟩
  · have hphase := (hk.open hp).1 ha
    simp [hphase, bytes, sourceCount]
  · have hr := hk.reached
    cases hphase : t.phase <;> rw [hphase] at hr
    · simp [hr.2]
    · simp [hr.2.1]
    · exact Nat.le_of_eq hr
  · have hr := hk.reached
    cases hphase : t.phase <;> rw [hphase] at hr
    · exact absurd hr.2 hp
    · exact absurd hr.2.1 hp
    · simp [isInstalled, bytes, sourceCount, hphase]

end Hest.Table
