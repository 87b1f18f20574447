import OpenRazer.Crc
import OpenRazer.Library.Parity

namespace OpenRazer

namespace WireReport

/-- A frame with a difference applied to it, byte by byte. -/
def xor (a d : WireReport) : WireReport :=
  Vector.zipWith (· ^^^ ·) a d

/-- The XOR of bytes 2 to 88, the checksum byte included. -/
def residue (b : WireReport) : UInt8 :=
  Parity.fold (· ^^^ ·) 0 (b.extract 2 89).toList

theorem xor_xor (a b : WireReport) : a.xor (a.xor b) = b := by
  refine Vector.ext fun i bound => ?_
  rw [xor, Vector.getElem_zipWith, xor, Vector.getElem_zipWith, ← UInt8.xor_assoc, UInt8.xor_self, UInt8.zero_xor]

theorem residue_eq (b : WireReport) : b.residue = crc b ^^^ b.get 88 := by
  have last : (b.extract 2 89).toList = (b.extract 2 88).toList ++ [b.get 88] := by
    refine List.ext_getElem (by simp) fun i bound _ => ?_
    simp only [Vector.length_toList] at bound
    simp only [Vector.getElem_toList, Vector.getElem_extract, List.getElem_append, Vector.length_toList]
    split
    · rfl
    · obtain rfl : i = 86 := by omega
      rfl
  rw [residue, last, Parity.fold_append, Parity.fold_cons]
  exact congrArg (crc b ^^^ ·) UInt8.xor_zero

theorem residue_xor (a d : WireReport) : (a.xor d).residue = a.residue ^^^ d.residue := by
  rw [residue, xor, Vector.extract_zipWith, Vector.toList_zipWith]
  exact Parity.fold_zipWith (by rw [Vector.length_toList, Vector.length_toList])

/-- A frame is valid exactly when its bytes cancel out. -/
theorem verifyCrc_iff_residue {b : WireReport} : verifyCrc b = true ↔ b.residue = 0 := by
  rw [verifyCrc_iff, residue_eq, UInt8.xor_eq_zero_iff]
  exact eq_comm

theorem residue_of_single {d : WireReport} {i : Nat} (lower : 2 ≤ i) (upper : i ≤ 88)
    (others : ∀ j (_ : j < 90), j ≠ i → d[j] = 0) : d.residue = d[i] := by
  have inside : i - 2 < (d.extract 2 89).toList.length := by
    rw [Vector.length_toList]
    omega
  have single : d.residue = (d.extract 2 89).toList[i - 2] := by
    refine Parity.fold_single inside fun j bound apart => ?_
    rw [Vector.length_toList] at bound
    rw [Vector.getElem_toList, Vector.getElem_extract]
    exact others (2 + j) (by omega) (by omega)
  rw [single, Vector.getElem_toList, Vector.getElem_extract]
  congr 1
  omega

end WireReport

/-- What the checksum sees of a difference, exactly: the XOR of its bytes 2 to 88. -/
theorem verifyCrc_exact :
    (∀ a d : WireReport, verifyCrc a = true → (verifyCrc (a.xor d) = true ↔ d.residue = 0)) ∧
    (∀ (a b : WireReport) (i : Nat) (bound : i < 90), verifyCrc a = true → 2 ≤ i → i ≤ 88 →
      (∀ j (_ : j < 90), j ≠ i → b[j] = a[j]) → b[i] ≠ a[i] → verifyCrc b = false) ∧
    (∀ a b : WireReport, verifyCrc a = true → (∀ j (_ : j < 90), 2 ≤ j → j ≤ 88 → b[j] = a[j]) → verifyCrc b = true) ∧
    ∀ a b : WireReport, verifyCrc a = true → (b.extract 2 88).toList.Perm (a.extract 2 88).toList → b.get 88 = a.get 88 →
      verifyCrc b = true := by
  have difference {a : WireReport} (valid : verifyCrc a = true) (d : WireReport) :
      verifyCrc (a.xor d) = true ↔ d.residue = 0 := by
    rw [WireReport.verifyCrc_iff_residue, WireReport.residue_xor, WireReport.verifyCrc_iff_residue.mp valid, UInt8.zero_xor]
  refine ⟨fun a d valid => difference valid d, ?_, ?_, ?_⟩
  · intro a b i bound valid lower upper others changed
    have confined : ∀ j (_ : j < 90), j ≠ i → (a.xor b)[j] = 0 := by
      intro j inside apart
      rw [WireReport.xor, Vector.getElem_zipWith, others j inside apart, UInt8.xor_self]
    rw [← Bool.not_eq_true, ← WireReport.xor_xor a b, difference valid, WireReport.residue_of_single lower upper confined,
      WireReport.xor, Vector.getElem_zipWith, UInt8.xor_eq_zero_iff]
    exact changed.symm
  · intro a b valid same
    have checksum : b.get 88 = a.get 88 := same 88 (by omega) (by omega) (by omega)
    rw [verifyCrc_iff, crc_congr fun j inside lower upper => same j inside lower (by omega), checksum]
    exact verifyCrc_iff.mp valid
  · intro a b valid rearranged checksum
    have folded : crc b = crc a := Parity.fold_perm rearranged
    rw [verifyCrc_iff, folded, checksum]
    exact verifyCrc_iff.mp valid

end OpenRazer
