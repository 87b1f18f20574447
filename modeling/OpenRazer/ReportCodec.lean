import Mathlib.Data.Set.Function
import Mathlib.Tactic.IntervalCases
import OpenRazer.Report

namespace OpenRazer

open Bytes

/-- `Unknown(v)` is canonical only outside the range the named variants cover. -/
def Status.Canonical : Status → Prop
  | .unknown v => 5 < v
  | _ => True

instance (s : Status) : Decidable s.Canonical := by
  cases s <;> unfold Status.Canonical <;> infer_instance

theorem Status.toU8_fromU8 (v : UInt8) : (fromU8 v).toU8 = v := by
  unfold fromU8
  split <;> rfl

theorem Status.fromU8_canonical (v : UInt8) : (fromU8 v).Canonical := by
  unfold fromU8
  split
  case h_7 => simp only [Canonical]; grind
  all_goals trivial

theorem Status.fromU8_toU8 {s : Status} (canonical : s.Canonical) : fromU8 s.toU8 = s := by
  cases s with
  | unknown v =>
    change 5 < v at canonical
    change fromU8 v = .unknown v
    unfold fromU8
    split
    case h_7 => rfl
    all_goals exact absurd canonical (by decide)
  | _ => rfl

namespace RazerReport

/-- Every byte of the wire form but the checksum, by offset. -/
def layout (r : RazerReport) (i : Nat) : UInt8 :=
  if i = 0 then r.status.toU8
  else if i = 1 then r.transactionId
  else if h : 2 ≤ i ∧ i < 4 then (toBeBytes r.remainingPackets)[i - 2]
  else if i = 4 then r.protocolType
  else if i = 5 then r.dataSize
  else if i = 6 then r.commandClass
  else if i = 7 then r.commandId
  else if h : 8 ≤ i ∧ i < 88 then r.arguments[i - 8]
  else r.reserved

theorem layout_payload (r : RazerReport) {j : Nat} (bound : j < 80) : r.layout (8 + j) = r.arguments[j] := by
  simp [layout, show 8 + j ≠ 1 by omega, show ¬8 + j < 4 by omega, show 8 + j ≠ 4 by omega,
    show 8 + j ≠ 5 by omega, show 8 + j ≠ 6 by omega, show 8 + j ≠ 7 by omega, show 8 + j < 88 by omega]

/-- An offset of the frame is one of the eight header bytes, a payload byte,
the checksum or the reserved byte. -/
theorem offset_cases {i : Nat} (bound : i < 90) :
    i < 8 ∨ (∃ j, j < 80 ∧ i = 8 + j) ∨ i = 88 ∨ i = 89 := by
  by_cases header : i < 8
  · exact Or.inl header
  · by_cases payload : i < 88
    · exact Or.inr (Or.inl ⟨i - 8, by omega, by omega⟩)
    · omega

theorem transactionId_lt : 1 < 90 := by
  decide

theorem toBytes_crc (r : RazerReport) (inside : 88 < 90) : r.toBytes[88] = OpenRazer.crc r.toBytes := by
  unfold toBytes
  rw [crc_set (by omega) _ (by omega), Vector.getElem_set_self]

theorem toBytes_layout (r : RazerReport) {i : Nat} (bound : i < 90) (notCrc : i ≠ 88) :
    r.toBytes[i] = r.layout i := by
  unfold toBytes
  rw [Vector.getElem_set_ne _ _ (by omega)]
  rcases offset_cases bound with header | ⟨j, inside, rfl⟩ | same | rfl
  · interval_cases i <;> simp [layout, getElem_copyFromSlice]
  · rw [Vector.getElem_set_ne _ _ (by omega), getElem_copyFromSlice_inside inside, layout_payload r inside]
  · exact absurd same notCrc
  · simp [layout]

theorem fromBytes_layout (b : WireReport) {i : Nat} (bound : i < 90) (notCrc : i ≠ 88) :
    (fromBytes b).layout i = b[i] := by
  rcases offset_cases bound with header | ⟨j, inside, rfl⟩ | same | rfl
  · interval_cases i <;> simp [layout, fromBytes, Status.toU8_fromU8, toBeBytes_fromBeBytes]
  · rw [layout_payload _ inside]
    simp [fromBytes]
  · exact absurd same notCrc
  · simp [layout, fromBytes]

theorem toBytes_verifyCrc (r : RazerReport) : verifyCrc r.toBytes = true :=
  verifyCrc_iff.mpr (r.toBytes_crc checksum_lt)

/-- Two reports whose bytes agree off the checksum are the same frame as soon
as they agree on the covered range. -/
theorem crc_toBytes_congr {r : RazerReport} {b : WireReport}
    (same : ∀ i (_ : i < 90), 2 ≤ i → i < 88 → r.layout i = b[i]) : OpenRazer.crc r.toBytes = OpenRazer.crc b :=
  crc_congr fun i bound lower upper => (r.toBytes_layout bound (by omega)).trans (same i bound lower upper)

theorem toBytes_fromBytes (b : WireReport) : (fromBytes b).toBytes = b.set 88 (OpenRazer.crc b) checksum_lt := by
  refine Vector.ext fun i bound => ?_
  by_cases atCrc : i = 88
  · subst i
    rw [toBytes_crc, Vector.getElem_set_self]
    exact crc_toBytes_congr fun i inside _ upper => fromBytes_layout b inside (by omega)
  · rw [toBytes_layout _ bound atCrc, fromBytes_layout b bound atCrc, Vector.getElem_set_ne _ _ (by omega)]

theorem fromBytes_toBytes {r : RazerReport} (canonical : r.status.Canonical) :
    fromBytes r.toBytes = { r with crc := OpenRazer.crc r.toBytes } := by
  have word : #v[r.toBytes[2], r.toBytes[3]] = toBeBytes r.remainingPackets := by
    rw [toBytes_layout r (by omega) (by omega), toBytes_layout r (by omega) (by omega)]
    rfl
  have payload : (Vector.ofFn fun i : Fin 80 => r.toBytes[8 + i.val]) = r.arguments := by
    refine Vector.ext fun i bound => ?_
    rw [Vector.getElem_ofFn, toBytes_layout r (by omega) (by omega), layout_payload r bound]
  simp only [fromBytes, word, payload, toBytes_crc, fromBeBytes_toBeBytes]
  simp [toBytes_layout, layout, Status.fromU8_toU8 canonical]

/-- The transaction id owns byte 1 of the frame and nothing else. -/
theorem toBytes_withTransactionId (r : RazerReport) (tid : UInt8) :
    (r.withTransactionId tid).toBytes = r.toBytes.set 1 tid transactionId_lt := by
  have others {i : Nat} (off : i ≠ 1) : (r.withTransactionId tid).layout i = r.layout i := by
    simp only [layout, withTransactionId, if_neg off]
  refine Vector.ext fun i bound => ?_
  by_cases atCrc : i = 88
  · subst i
    rw [toBytes_crc, Vector.getElem_set_ne _ _ (by omega), toBytes_crc]
    refine crc_toBytes_congr fun i inside lower upper => ?_
    rw [others (by omega), toBytes_layout r inside (by omega)]
  · rw [toBytes_layout _ bound atCrc]
    by_cases atId : i = 1
    · subst i
      rw [Vector.getElem_set_self]
      rfl
    · rw [others atId, Vector.getElem_set_ne _ _ (by omega), toBytes_layout r bound atCrc]

theorem fromBytes_set_id (b : WireReport) (tid : UInt8) :
    fromBytes (b.set 1 tid transactionId_lt) = (fromBytes b).withTransactionId tid := by
  have other {i : Nat} (bound : i < 90) (notId : 1 ≠ i) : (b.set 1 tid transactionId_lt)[i] = b[i] :=
    Vector.getElem_set_ne _ _ notId
  have payload : (Vector.ofFn fun i : Fin 80 => (b.set 1 tid transactionId_lt)[8 + i.val]) = Vector.ofFn fun i => b[8 + i.val] :=
    congrArg Vector.ofFn (funext fun i => other (by omega) (by omega))
  simp only [fromBytes, withTransactionId, payload, Vector.getElem_set_self]
  simp [other]

/-- Encoding and decoding are inverse to each other between the canonical
reports that carry their own checksum and the frames whose checksum verifies;
on any other report or frame they only repair the checksum. -/
theorem wire_codec_bijection :
    (∀ r : RazerReport, r.status.Canonical →
      fromBytes r.toBytes = { r with crc := OpenRazer.crc r.toBytes } ∧ verifyCrc r.toBytes = true) ∧
    (∀ b : WireReport, (fromBytes b).status.Canonical ∧
      (fromBytes b).toBytes = b.set 88 (OpenRazer.crc b) checksum_lt ∧
      ((fromBytes b).toBytes = b ↔ verifyCrc b = true)) ∧
    Set.BijOn toBytes {r | r.status.Canonical ∧ r.crc = OpenRazer.crc r.toBytes} {b | verifyCrc b = true} ∧
    (∀ r r' : RazerReport, r.status.Canonical → r'.status.Canonical →
      { r with crc := r'.crc } ≠ r' → r.toBytes ≠ r'.toBytes) := by
  have decoded {b : WireReport} : (fromBytes b).toBytes = b ↔ verifyCrc b = true := by
    rw [toBytes_fromBytes, verifyCrc_iff]
    constructor
    · intro same
      rw [← congrArg (fun v : WireReport => v.get 88) same]
      exact Vector.getElem_set_self ..
    · intro same
      rw [← same]
      exact Vector.set_getElem_self ..
  have recovered {r r' : RazerReport} (canonical : r.status.Canonical) (canonical' : r'.status.Canonical)
      (same : r.toBytes = r'.toBytes) : { r with crc := r'.crc } = r' := by
    have equal := fromBytes_toBytes canonical
    rw [same, fromBytes_toBytes canonical'] at equal
    cases r
    cases r'
    simp_all
  refine ⟨fun r canonical => ⟨fromBytes_toBytes canonical, r.toBytes_verifyCrc⟩,
    fun b => ⟨Status.fromU8_canonical _, toBytes_fromBytes b, decoded⟩, ⟨?_, ?_, ?_⟩, ?_⟩
  · exact fun r _ => r.toBytes_verifyCrc
  · rintro r ⟨canonical, own⟩ r' ⟨canonical', own'⟩ same
    have crcSame : r.crc = r'.crc := own.trans ((congrArg OpenRazer.crc same).trans own'.symm)
    rw [← recovered canonical canonical' same, ← crcSame]
  · intro b valid
    have back := decoded.mpr valid
    exact ⟨fromBytes b, ⟨Status.fromU8_canonical _, by rw [back]; exact verifyCrc_iff.mp valid⟩, back⟩
  · exact fun r r' canonical canonical' differ same => differ (recovered canonical canonical' same)

end RazerReport

end OpenRazer
