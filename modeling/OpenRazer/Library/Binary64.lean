import Mathlib.Algebra.Order.Field.Rat
import Mathlib.Data.Int.Log
import Mathlib.Data.Rat.Floor
import Mathlib.Tactic.NormNum

/-- A nonnegative binary64 number by its value. The exponents of times and of
their sums stay far inside the format's range, so only the 53 bits are kept. -/
abbrev Binary64 := ℚ

namespace Binary64

/-- To the nearest integer, ties to even. -/
def nearest (x : ℚ) : Nat :=
  let below := ⌊x⌋₊
  if x - below < 1 / 2 then below
  else if 1 / 2 < x - below then below + 1
  else if below % 2 = 0 then below else below + 1

/-- To the nearest number with 53 significant bits. -/
def round (x : ℚ) : Binary64 :=
  if x = 0 then 0
  else
    let ulp : ℚ := 2 ^ (Int.log 2 x - 52)
    nearest (x / ulp) * ulp

def ofNat (n : Nat) : Binary64 := round n

def add (x y : Binary64) : Binary64 := round (x + y)

def mul (x y : Binary64) : Binary64 := round (x * y)

def div (x y : Binary64) : Binary64 := round (x / y)

/-- `Duration::as_secs_f64`: whole seconds and the rest are converted apart. -/
def ofNanos (nanos : Nat) : Binary64 :=
  add (ofNat (nanos / 1000000000)) (div (ofNat (nanos % 1000000000)) (ofNat 1000000000))

/-- `{:.N}` for a positive `N`: the nearest decimal with that many places, ties to even. -/
def fixed (places : Nat) (x : Binary64) : String :=
  let units := nearest (x * 10 ^ places)
  let fraction := Nat.toDigits 10 (units % 10 ^ places)
  Nat.repr (units / 10 ^ places) ++ "." ++
    String.ofList (List.replicate (places - fraction.length) '0' ++ fraction)

theorem isDigit_toDigits (n : Nat) : ∀ c ∈ Nat.toDigits 10 n, c.isDigit = true :=
  fun _ member => Nat.isDigit_of_mem_toDigits (by decide) (by decide) member

/-- Digits and one point. -/
theorem fixed_chars (places : Nat) (x : Binary64) : ∀ c ∈ (fixed places x).toList, c.isDigit = true ∨ c = '.' := by
  intro c member
  simp only [fixed, String.toList_append, String.toList_ofList, List.mem_append] at member
  rcases member with (whole | point) | zero | fraction
  · exact Or.inl (isDigit_toDigits _ c (by simpa [Nat.repr] using whole))
  · exact Or.inr (by simpa using point)
  · rw [(List.mem_replicate.mp zero).2]
    exact Or.inl (by decide)
  · exact Or.inl (isDigit_toDigits _ c fraction)

end Binary64
