import Mathlib.Tactic.Common

namespace Bytes

variable {α : Type*} {n m : Nat}

/-- `out[start..start + m].copy_from_slice(&src)`. The bound is the slice check that would panic. -/
def copyFromSlice (out : Vector α n) (start : Nat) (src : Vector α m) (_fits : start + m ≤ n) : Vector α n :=
  Vector.ofFn fun i => if h : start ≤ i ∧ i < start + m then src[i.val - start] else out[i]

theorem getElem_copyFromSlice (out : Vector α n) (start : Nat) (src : Vector α m) (fits : start + m ≤ n)
    {i : Nat} (bound : i < n) :
    (copyFromSlice out start src fits)[i] =
      if h : start ≤ i ∧ i < start + m then src[i - start] else out[i] := by
  simp only [copyFromSlice, Vector.getElem_ofFn]
  rfl

theorem getElem_copyFromSlice_inside {out : Vector α n} {start : Nat} {src : Vector α m} {fits : start + m ≤ n}
    {i : Nat} (bound : i < m) : (copyFromSlice out start src fits)[start + i] = src[i] := by
  rw [getElem_copyFromSlice, dif_pos ⟨by omega, by omega⟩]
  simp only [Nat.add_sub_cancel_left]

/-- A loop that reads an index range is a fold over that part of the list. -/
theorem foldlM_range' {β : Type} {α : Type} (f : β → α → β) (xs : List α) {start count : Nat}
    (inside : start + count ≤ xs.length) (b : β) :
    (List.range' start count).foldlM (fun b i => xs[i]?.map (f b)) b = some (((xs.drop start).take count).foldl f b) := by
  induction count generalizing start b with
  | zero => rfl
  | succ count ih =>
    have here : start < xs.length := by omega
    rw [List.range'_succ, List.foldlM_cons, List.getElem?_eq_getElem here, List.drop_eq_getElem_cons here,
      List.take_succ_cons, List.foldl_cons]
    exact ih (by omega) _

/-- `u16::to_be_bytes`. -/
def toBeBytes (v : UInt16) : Vector UInt8 2 :=
  #v[UInt8.ofNat (v.toNat / 256), UInt8.ofNat (v.toNat % 256)]

/-- `u16::from_be_bytes`. -/
def fromBeBytes (bytes : Vector UInt8 2) : UInt16 :=
  UInt16.ofNat (bytes[0].toNat * 256 + bytes[1].toNat)

theorem fromBeBytes_toBeBytes (v : UInt16) : fromBeBytes (toBeBytes v) = v := by
  have bound := v.toNat_lt
  apply UInt16.toNat_inj.mp
  simp only [fromBeBytes, toBeBytes, Vector.getElem_mk, List.getElem_toArray, List.getElem_cons_zero,
    List.getElem_cons_succ, UInt8.toNat_ofNat', UInt16.toNat_ofNat']
  omega

theorem toBeBytes_fromBeBytes (bytes : Vector UInt8 2) : toBeBytes (fromBeBytes bytes) = bytes := by
  have high := bytes[0].toNat_lt
  have low := bytes[1].toNat_lt
  refine Vector.ext fun i bound => UInt8.toNat_inj.mp ?_
  obtain rfl | rfl : i = 0 ∨ i = 1 := by omega
  all_goals
    simp only [fromBeBytes, toBeBytes, Vector.getElem_mk, List.getElem_toArray, List.getElem_cons_zero,
      List.getElem_cons_succ, UInt8.toNat_ofNat', UInt16.toNat_ofNat']
    omega

end Bytes
