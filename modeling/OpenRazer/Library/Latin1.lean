import Mathlib.Tactic.Common

/-! Bytes as the characters of the same number, `b as char`. -/

namespace Latin1

def char (b : UInt8) : Char :=
  Char.ofNat b.toNat

def text (bytes : List UInt8) : String :=
  String.ofList (bytes.map char)

def bytes (s : String) : List UInt8 :=
  s.toList.map fun c => UInt8.ofNat c.toNat

theorem toNat_char (b : UInt8) : (char b).toNat = b.toNat := by
  have bound := b.toNat_lt
  have valid : b.toNat.isValidChar := Or.inl (by omega)
  rw [char, Char.ofNat, dif_pos valid]
  rfl

theorem char_ofNat {c : Char} (bound : c.toNat < 256) : char (UInt8.ofNat c.toNat) = c := by
  rw [char, UInt8.toNat_ofNat_of_lt' bound, Char.ofNat_toNat]

theorem text_bytes {s : String} (each : ∀ c ∈ s.toList, c.toNat < 256) : text (bytes s) = s := by
  have back : (bytes s).map char = s.toList := by
    rw [bytes, List.map_map]
    exact (List.map_congr_left fun c member => char_ofNat (each c member)).trans (List.map_id _)
  rw [text, back, String.ofList_toList]

end Latin1
