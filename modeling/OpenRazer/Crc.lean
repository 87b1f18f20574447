import OpenRazer.Library.Bytes

namespace OpenRazer

/-- An encoded report, `[u8; REPORT_LEN]`. -/
abbrev WireReport := Vector UInt8 90

/-- XOR of `bytes[2..88]`, seed 0: neither the status and transaction id in
front nor the checksum and reserved byte behind are covered. -/
def crc (bytes : WireReport) : UInt8 :=
  (bytes.extract 2 88).toList.foldl (fun acc b => acc ^^^ b) 0

def verifyCrc (bytes : WireReport) : Bool :=
  bytes.get 88 == crc bytes

theorem checksum_lt : 88 < 90 := by
  decide

/-- The checksum reads the covered bytes only. -/
theorem crc_congr {a b : WireReport}
    (same : ∀ i (_ : i < 90), 2 ≤ i → i < 88 → a[i] = b[i]) : crc a = crc b := by
  have covered : a.extract 2 88 = b.extract 2 88 := by
    refine Vector.ext fun i bound => ?_
    simp only [Vector.getElem_extract]
    exact same (2 + i) (by omega) (by omega) (by omega)
  simp only [crc, covered]

theorem crc_set {a : WireReport} {i : Nat} (bound : i < 90) (x : UInt8)
    (outside : i < 2 ∨ 88 ≤ i) : crc (a.set i x) = crc a := by
  apply crc_congr
  intro j inside lower upper
  exact Vector.getElem_set_ne _ _ (by omega)

theorem verifyCrc_iff {bytes : WireReport} :
    verifyCrc bytes = true ↔ bytes.get 88 = crc bytes := by
  simp only [verifyCrc, beq_iff_eq]

end OpenRazer
