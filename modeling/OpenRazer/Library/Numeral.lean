import Mathlib.Data.Nat.Digits.Defs
import Mathlib.Tactic.Ring

namespace Numeral

/-- What digits stand for in a base, the most significant first. -/
def value (base : Nat) (digits : List Nat) : Nat :=
  Nat.ofDigits base digits.reverse

@[simp] theorem value_nil (base : Nat) : value base [] = 0 := rfl

theorem value_cons (base d : Nat) (digits : List Nat) :
    value base (d :: digits) = d * base ^ digits.length + value base digits := by
  rw [value, List.reverse_cons, Nat.ofDigits_append, Nat.ofDigits_singleton, List.length_reverse, value]
  ring

theorem value_append (base : Nat) (front back : List Nat) :
    value base (front ++ back) = value base front * base ^ back.length + value base back := by
  rw [value, List.reverse_append, Nat.ofDigits_append, List.length_reverse, value, value]
  ring

@[simp] theorem value_zeros (base width : Nat) (digits : List Nat) :
    value base (List.replicate width 0 ++ digits) = value base digits := by
  induction width with
  | zero => rfl
  | succ width ih => rw [List.replicate_succ, List.cons_append, value_cons, Nat.zero_mul, Nat.zero_add, ih]

/-- What is printed of a number are digits of that value. -/
theorem toDigits_spec {base : Nat} (large : 1 < base) (n : Nat) :
    ∃ digits, Nat.toDigits base n = digits.map Nat.digitChar ∧ (∀ d ∈ digits, d < base) ∧ value base digits = n := by
  induction n using Nat.strongRecOn with
  | ind n ih =>
    rw [Nat.toDigits_eq_if large]
    split
    · rename_i small
      exact ⟨[n], rfl, by simpa using small, by simp [value_cons]⟩
    · rename_i more
      obtain ⟨digits, printed, each, valued⟩ := ih (n / base) (Nat.div_lt_self (by omega) large)
      have last := Nat.mod_lt n (show 0 < base by omega)
      refine ⟨digits ++ [n % base], by rw [printed, List.map_append]; rfl, ?_, ?_⟩
      · intro d member
        rcases List.mem_append.mp member with earlier | here
        · exact each d earlier
        · rw [List.mem_singleton.mp here]
          exact last
      · rw [value_append, valued, List.length_singleton, Nat.pow_one, value_cons, value_nil, List.length_nil,
          Nat.pow_zero, Nat.mul_one, Nat.add_zero]
        exact Nat.div_add_mod' n base

/-- Read digits from the left behind what was read already, and give up at the
first step that does not fit below the bound. -/
def readChecked (base bound : Nat) : List Nat → Nat → Option Nat
  | [], read => some read
  | d :: digits, read =>
    let shifted := read * base
    if shifted < bound then
      if shifted + d < bound then readChecked base bound digits (shifted + d) else none
    else none

theorem readChecked_cons {base bound d read : Nat} {digits : List Nat} :
    readChecked base bound (d :: digits) read =
      if read * base + d < bound then readChecked base bound digits (read * base + d) else none := by
  rw [readChecked]
  split
  · rfl
  · rename_i overflow
    rw [if_neg (by omega)]

/-- Giving up early loses nothing: what is read only grows, leading zeros or not. -/
theorem readChecked_eq_some {base bound : Nat} (positive : 0 < base) {digits : List Nat} {read v : Nat}
    (fits : read < bound) : readChecked base bound digits read = some v ↔
      v = read * base ^ digits.length + value base digits ∧ v < bound := by
  induction digits generalizing read with
  | nil =>
    rw [readChecked, Option.some.injEq, List.length_nil, Nat.pow_zero, Nat.mul_one, value_nil, Nat.add_zero]
    constructor
    · rintro rfl
      exact ⟨rfl, fits⟩
    · rintro ⟨rfl, _⟩
      rfl
  | cons d digits ih =>
    have grown : read * base ^ (d :: digits).length + value base (d :: digits) =
        (read * base + d) * base ^ digits.length + value base digits := by
      rw [value_cons, List.length_cons, Nat.pow_succ]
      ring
    rw [readChecked_cons, grown]
    split
    · rename_i small
      exact ih small
    · rename_i overflow
      have weight : 1 ≤ base ^ digits.length := Nat.one_le_pow _ _ positive
      have large : read * base + d ≤ (read * base + d) * base ^ digits.length := Nat.le_mul_of_pos_right _ weight
      simp only [reduceCtorEq, false_iff, not_and, not_lt]
      intro same
      omega

end Numeral
