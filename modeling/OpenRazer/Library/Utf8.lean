import Mathlib.Tactic.Common

/-! Text and the bytes it is written with. -/

namespace Utf8

def bytes (s : String) : List UInt8 :=
  s.toList.flatMap String.utf8EncodeChar

/-- `String::from_utf8`, where it succeeds. -/
def decode? (written : List UInt8) : Option String :=
  String.fromUTF8? written.toByteArray

theorem toByteArray_bytes (s : String) : (bytes s).toByteArray = s.toByteArray := by
  rw [← String.utf8Encode_toList, List.utf8Encode, bytes]

theorem decode?_eq_some {written : List UInt8} {s : String} : decode? written = some s ↔ bytes s = written := by
  have same : bytes s = written ↔ s.toByteArray = written.toByteArray := by
    rw [← toByteArray_bytes]
    exact ⟨congrArg _, fun same => by simpa using congrArg (·.data.toList) same⟩
  rw [same, decode?, String.fromUTF8?]
  split
  · rw [Option.some.injEq, ← String.toByteArray_inj]
    exact eq_comm
  · rename_i malformed
    refine iff_of_false (by simp) fun same => malformed ?_
    rw [← same]
    exact s.isValidUTF8

theorem bytes_append (s t : String) : bytes (s ++ t) = bytes s ++ bytes t := by
  rw [bytes, String.toList_append, List.flatMap_append, bytes, bytes]

theorem length_bytes (s : String) : (bytes s).length = s.utf8ByteSize := by
  rw [← String.size_toByteArray, ← toByteArray_bytes, List.size_toByteArray]

/-- Bytes that are well-formed apart are well-formed together. -/
theorem decode?_flatten {parts : List (List UInt8)} (each : ∀ part ∈ parts, (decode? part).isSome) :
    (decode? parts.flatten).isSome := by
  induction parts with
  | nil => exact Option.isSome_of_eq_some ((decode?_eq_some (s := "")).mpr rfl)
  | cons part parts ih =>
    obtain ⟨here, later⟩ := List.forall_mem_cons.mp each
    obtain ⟨s, first⟩ := Option.isSome_iff_exists.mp here
    obtain ⟨t, rest⟩ := Option.isSome_iff_exists.mp (ih later)
    refine Option.isSome_of_eq_some ((decode?_eq_some (s := s ++ t)).mpr ?_)
    rw [bytes_append, decode?_eq_some.mp first, decode?_eq_some.mp rest, List.flatten_cons]

/-- A byte below 128 stands for the character of that number and is part of no other. -/
theorem mem_utf8EncodeChar {b : UInt8} (ascii : b < 0x80) {c : Char} :
    b ∈ String.utf8EncodeChar c ↔ c.toNat = b.toNat := by
  have bound : b.toNat < 128 := UInt8.lt_iff_toNat_lt.mp ascii
  have number {n : Nat} : b = UInt8.ofNat n ↔ b.toNat = n % 256 := by
    rw [← UInt8.toNat_inj, UInt8.toNat_ofNat']
  have value : c.toNat = c.val.toNat := rfl
  rw [String.utf8EncodeChar, value]
  split
  · simp only [List.mem_singleton, number]
    omega
  · split
    · simp only [List.mem_cons, List.not_mem_nil, or_false, number]
      omega
    · split
      · simp only [List.mem_cons, List.not_mem_nil, or_false, number]
        omega
      · simp only [List.mem_cons, List.not_mem_nil, or_false, number]
        omega

theorem encode_ascii {c : Char} (ascii : c.toNat < 128) : String.utf8EncodeChar c = [UInt8.ofNat c.toNat] := by
  rw [String.utf8EncodeChar]
  exact if_pos (Nat.le_of_lt_succ ascii)

/-- A text ends with a character of the ASCII range exactly when its bytes end with its byte. -/
theorem getLast?_bytes {b : UInt8} (ascii : b < 0x80) (s : String) :
    (bytes s).getLast? = some b ↔ s.toList.getLast?.map Char.toNat = some b.toNat := by
  rcases s.toList.eq_nil_or_concat with empty | ⟨front, c, parts⟩
  · simp [bytes, empty]
  · rw [bytes, parts, List.concat_eq_append, List.flatMap_append, List.flatMap_singleton, List.getLast?_append, List.getLast?_concat,
      Option.map_some, Option.some.injEq, ← mem_utf8EncodeChar ascii]
    constructor
    · intro last
      rw [Option.or_of_isSome (by simp)] at last
      exact List.mem_of_getLast? last
    · intro member
      have number := (mem_utf8EncodeChar ascii).mp member
      have bound : b.toNat < 128 := UInt8.lt_iff_toNat_lt.mp ascii
      rw [encode_ascii (by omega), number, UInt8.ofNat_toNat]
      rfl

end Utf8
