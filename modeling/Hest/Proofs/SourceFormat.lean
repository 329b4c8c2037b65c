import Hest.Producer
import Hest.Proofs.Bytes

/-!
# The format of generic sources

A generic source is written as 92 bytes, in which three layouts are nested, and a producer holds the
descriptors of its sources one after another.  Nothing here reads descriptors but the theorems: what
is written can be read back, so no field is laid over another and none is left out.

* `GenericAddress.decode_encode`, `Notification.decode?_encode` and `GenericSource.decode?_encode`:
  each layout is read back.  Not every byte is a mechanism, so the last two readers may fail.
* `GenericSource.encode_injective` follows: different sources are written differently.
* `FixedSources.Lists`: which bytes stand where in a producer made of sources.
* `generic_sources_exact` joins these with the lists, of which the descriptors tell everything.
-/

namespace Hest

open LittleEndian

/-! ## One source -/

namespace GenericAddress

/-- The generic address that 12 bytes hold. -/
def decode (b : Block 12) : GenericAddress where
  space := .ofNat (LittleEndian.decode (b.window 0 1 (by decide)).bytes)
  bitWidth := .ofNat (LittleEndian.decode (b.window 1 1 (by decide)).bytes)
  bitOffset := .ofNat (LittleEndian.decode (b.window 2 1 (by decide)).bytes)
  accessSize := .ofNat (LittleEndian.decode (b.window 3 1 (by decide)).bytes)
  address := .ofNat (LittleEndian.decode (b.window 4 8 (by decide)).bytes)

theorem decode_encode (a : GenericAddress) : decode ⟨a.encode, a.length_encode⟩ = a := by
  simp [decode, encode, LittleEndian.decode, ofNat_decode_encode_64]

end GenericAddress

/-- The mechanism that a byte stands for, if there is one. -/
def Mechanism.ofCode? : UInt8 → Option Mechanism
  | 0 => some polled
  | 1 => some externalInterrupt
  | 2 => some localInterrupt
  | 3 => some systemControlInterrupt
  | 4 => some nonMaskableInterrupt
  | 5 => some correctedMachineCheck
  | 6 => some machineCheck
  | 7 => some gpioSignal
  | 8 => some synchronousAbort
  | 9 => some systemErrorInterrupt
  | 10 => some globalInterrupt
  | 11 => some softwareDelegated
  | _ => none

theorem Mechanism.ofCode?_code (m : Mechanism) : ofCode? m.code = some m := by
  cases m <;> rfl

namespace Notification

/-- The notification that 28 bytes hold, if they begin with a mechanism. -/
def decode? (b : Block 28) : Option Notification :=
  let word (offset : Nat) (h : offset + 4 ≤ 28) : UInt32 :=
    .ofNat (LittleEndian.decode (b.window offset 4 h).bytes)
  let code := UInt8.ofNat (LittleEndian.decode (b.window 0 1 (by decide)).bytes)
  (Mechanism.ofCode? code).map fun mechanism =>
    { mechanism
      writeEnable := ⟨.ofNat (LittleEndian.decode (b.window 2 2 (by decide)).bytes)⟩
      pollInterval := word 4 (by decide)
      vector := word 8 (by decide)
      pollingThresholdValue := word 12 (by decide)
      pollingThresholdWindow := word 16 (by decide)
      errorThresholdValue := word 20 (by decide)
      errorThresholdWindow := word 24 (by decide) }

theorem decode?_encode (n : Notification) : decode? ⟨n.encode, n.length_encode⟩ = some n := by
  simp [decode?, encode, LittleEndian.decode, Mechanism.ofCode?_code, ofNat_decode_encode_16,
    ofNat_decode_encode_32]

end Notification

namespace GenericSource

/-- The source whose descriptor 92 bytes are, if they hold a notification. -/
def decode? (b : Block 92) : Option GenericSource :=
  (Notification.decode? (b.window 32 28 (by decide))).map fun notification =>
    { sourceId := .ofNat (LittleEndian.decode (b.window 2 2 (by decide)).bytes)
      relatedSourceId := .ofNat (LittleEndian.decode (b.window 4 2 (by decide)).bytes)
      flags := .ofNat (LittleEndian.decode (b.window 6 1 (by decide)).bytes)
      enabled := LittleEndian.decode (b.window 7 1 (by decide)).bytes ≠ 0
      recordsToPreallocate := .ofNat (LittleEndian.decode (b.window 8 4 (by decide)).bytes)
      maxSectionsPerRecord := .ofNat (LittleEndian.decode (b.window 12 4 (by decide)).bytes)
      maxRawDataLength := .ofNat (LittleEndian.decode (b.window 16 4 (by decide)).bytes)
      statusAddress := .decode (b.window 20 12 (by decide))
      notification
      statusBlockLength := .ofNat (LittleEndian.decode (b.window 60 4 (by decide)).bytes)
      readAckRegister := .decode (b.window 64 12 (by decide))
      readAckPreserve := .ofNat (LittleEndian.decode (b.window 76 8 (by decide)).bytes)
      readAckWrite := .ofNat (LittleEndian.decode (b.window 84 8 (by decide)).bytes) }

theorem decode?_encode (s : GenericSource) : decode? ⟨s.encode, s.length_encode⟩ = some s := by
  have henabled : (!decide ((if s.enabled then (1 : UInt8) else 0).toNat = 0)) = s.enabled := by
    cases s.enabled <;> rfl
  simp [decode?, encode, Block.window, LittleEndian.decode, ofNat_decode_encode_16,
    ofNat_decode_encode_32, ofNat_decode_encode_64, GenericAddress.size, Notification.size,
    GenericAddress.decode_encode, Notification.decode?_encode, henabled]

/-- **Different sources are written differently.** -/
theorem encode_injective : Function.Injective encode := by
  intro s s' h
  have hblock : (⟨s.encode, s.length_encode⟩ : Block 92) = ⟨s'.encode, s'.length_encode⟩ :=
    Block.ext h
  have hread : some s = some s' := by rw [← s.decode?_encode, hblock, s'.decode?_encode]
  exact Option.some.inj hread

/-- A descriptor begins with its type and its number. -/
theorem front_encode (s : GenericSource) : LittleEndian.decode (s.encode.window 0 2) = 10 ∧
    LittleEndian.decode (s.encode.window 2 2) = s.sourceId.toNat := by
  simp [encode, typeCode, decode_encode_mod]

end GenericSource

/-! ## Lists of sources -/

namespace FixedSources

variable {sources sources' : List GenericSource} {p p' : FixedSources}

/-- A producer holds the descriptors of these sources, each in its place. -/
structure Lists (sources : List GenericSource) (p : FixedSources) : Prop where
  totals : p.totals = ⟨sources.length, 92 * sources.length⟩
  descriptor : ∀ i (h : i < sources.length), p.descriptors.window (92 * i) 92 = sources[i].encode
  typeCode : ∀ i < sources.length, LittleEndian.decode (p.descriptors.window (92 * i) 2) = 10
  sourceId : ∀ i (h : i < sources.length),
    LittleEndian.decode (p.descriptors.window (92 * i + 2) 2) = sources[i].sourceId.toNat

/-- A producer is made of any sources whose descriptors one buffer can hold. -/
theorem ofGeneric_eq_ok_iff : ofGeneric sources = .ok p ↔
    sources.length * 92 ≤ Bytes.capacity ∧
      p = ⟨sources.flatMap GenericSource.encode, sources.length⟩ := by
  unfold ofGeneric
  split
  · rename_i h
    rw [Except.ok.injEq]
    exact ⟨fun hp => ⟨h, hp.symm⟩, fun hp => hp.2.symm⟩
  · rename_i h
    exact ⟨fun hp => (nomatch hp), fun hp => absurd hp.1 h⟩

theorem lists_of_ofGeneric (h : ofGeneric sources = .ok p) : Lists sources p := by
  obtain ⟨-, rfl⟩ := ofGeneric_eq_ok_iff.1 h
  have hblock (i : Nat) (hi : i < sources.length) :
      Bytes.window (sources.flatMap GenericSource.encode) (92 * i) 92 = sources[i].encode :=
    Bytes.window_flatMap GenericSource.length_encode sources hi
  have hpart (i : Nat) (hi : i < sources.length) (offset : Nat) (hle : offset + 2 ≤ 92) :
      Bytes.window (sources.flatMap GenericSource.encode) (92 * i + offset) 2 =
        sources[i].encode.window offset 2 := by
    rw [← hblock i hi, Bytes.window_window hle]
  constructor
  · simp [totals, List.length_flatMap, List.map_const', GenericSource.size, Nat.mul_comm]
  · exact hblock
  · intro i hi
    rw [← Nat.add_zero (92 * i), hpart i hi 0 (by decide)]
    exact sources[i].front_encode.1
  · intro i hi
    rw [hpart i hi 2 (by decide)]
    exact sources[i].front_encode.2

/-- **Descriptors tell the sources that they are of.** -/
theorem Lists.unique (h : Lists sources p) (h' : Lists sources' p')
    (heq : p.descriptors = p'.descriptors) : sources = sources' := by
  have hp : p.descriptors.length = 92 * sources.length := congrArg Totals.length h.totals
  have hp' : p'.descriptors.length = 92 * sources'.length := congrArg Totals.length h'.totals
  rw [heq] at hp
  apply List.ext_getElem (by omega)
  intro i hi hi'
  apply GenericSource.encode_injective
  rw [← h.descriptor i hi, ← h'.descriptor i hi', heq]

end FixedSources

/-- **Generic sources are written without loss.**

* Two sources with the same bytes are the same.
* A producer can be made of sources just when one buffer can hold their descriptors.  It counts them
  at 92 bytes each, and from 92 times its number on stands the descriptor of each, which begins with
  its type and its number.
* Two producers with the same descriptors are made of the same sources. -/
theorem generic_sources_exact :
    Function.Injective GenericSource.encode ∧
    (∀ sources, sources.length * 92 ≤ Bytes.capacity →
      ∃ p, FixedSources.ofGeneric sources = .ok p ∧ p.Lists sources) ∧
    (∀ sources, Bytes.capacity < sources.length * 92 →
      FixedSources.ofGeneric sources = .error .outOfResources) ∧
    (∀ sources sources' p p', FixedSources.ofGeneric sources = .ok p →
      FixedSources.ofGeneric sources' = .ok p' → p.descriptors = p'.descriptors →
      sources = sources') := by
  refine ⟨GenericSource.encode_injective, fun sources h => ?_, fun sources h => ?_, ?_⟩
  · have hp := FixedSources.ofGeneric_eq_ok_iff.2 ⟨h, rfl⟩
    exact ⟨_, hp, FixedSources.lists_of_ofGeneric hp⟩
  · exact if_neg (Nat.not_le.2 h)
  · intro sources sources' p p' hp hp' heq
    have hlists := FixedSources.lists_of_ofGeneric hp
    exact hlists.unique (FixedSources.lists_of_ofGeneric hp') heq

end Hest
