import OpenRazer.Library.Collections
import OpenRazer.Lookup

namespace OpenRazer

/-- The order of a listing as its documentation has it: by number, what is not recognised last, by name. -/
structure InOrder (names sorted : List String) : Prop where
  perm : sorted.Perm names
  recognised_first : sorted.Pairwise fun a b => (hidrawIndex b).isSome → (hidrawIndex a).isSome
  ascending : sorted.Pairwise fun a b => ∀ n m, hidrawIndex a = some n → hidrawIndex b = some m → n ≤ m
  ties : sorted.Pairwise fun a b => hidrawIndex a = hidrawIndex b → a ≤ b

/-- The last number there is and a name without one that comes before it. -/
def Displaced (names : List String) : Prop :=
  ∃ a ∈ names, ∃ b ∈ names, hidrawIndex a = some 4294967295 ∧ hidrawIndex b = none ∧ b < a

theorem parseU32_lt {text : String} {n : Nat} (parsed : parseU32 text = some n) : n < 4294967296 := by
  simp only [parseU32, Option.ite_none_right_eq_some, Option.some.injEq] at parsed
  obtain ⟨⟨_, _, small⟩, rfl⟩ := parsed
  exact small

theorem hidrawIndex_lt {name : String} {n : Nat} (recognised : hidrawIndex name = some n) : n < 4294967296 := by
  unfold hidrawIndex at recognised
  split at recognised
  · exact parseU32_lt recognised
  · cases recognised

theorem sortKey_le_iff {a b : String} : sortKey a ≤ sortKey b ↔
    (hidrawIndex a).getD 4294967295 < (hidrawIndex b).getD 4294967295 ∨
      (hidrawIndex a).getD 4294967295 = (hidrawIndex b).getD 4294967295 ∧ a ≤ b :=
  Prod.Lex.toLex_le_toLex

theorem inOrder_of_not_displaced {names : List String} (undisturbed : ¬Displaced names) :
    InOrder names (sortByIndex names) := by
  have members (name : String) : name ∈ sortByIndex names → name ∈ names := (sortByIndex_perm names).mem_iff.mp
  refine ⟨sortByIndex_perm names, ?_, ?_, ?_⟩
  · refine (sortByIndex_sorted names).imp_of_mem fun {a b} inside inside' le recognised => ?_
    obtain ⟨m, number⟩ := Option.isSome_iff_exists.mp recognised
    cases other : hidrawIndex a with
    | some n => rfl
    | none =>
      have bound := hidrawIndex_lt number
      rw [sortKey_le_iff, number, other, Option.getD_some, Option.getD_none] at le
      have last : m = 4294967295 := by omega
      have before : a ≤ b := by
        rcases le with less | ⟨_, before⟩
        · omega
        · exact before
      have apart : a ≠ b := by
        rintro rfl
        rw [number] at other
        cases other
      exact absurd ⟨b, members b inside', a, members a inside, last ▸ number, other, lt_of_le_of_ne before apart⟩ undisturbed
  · refine (sortByIndex_sorted names).imp fun {a b} le n m number number' => ?_
    rw [sortKey_le_iff, number, number', Option.getD_some, Option.getD_some] at le
    omega
  · refine (sortByIndex_sorted names).imp fun {a b} le same => ?_
    rw [sortKey_le_iff, same] at le
    rcases le with less | ⟨_, before⟩
    · exact absurd less (Nat.lt_irrefl _)
    · exact before

theorem not_inOrder_of_displaced {names : List String} (displaced : Displaced names) :
    ¬InOrder names (sortByIndex names) := by
  obtain ⟨a, listed, b, listed', number, none, before⟩ := displaced
  intro ordered
  have members (name : String) : name ∈ names → name ∈ sortByIndex names := (sortByIndex_perm names).mem_iff.mpr
  have apart : a ≠ b := by
    rintro rfl
    exact lt_irrefl a before
  have sorted := (sortByIndex_sorted names).and ordered.recognised_first
  rcases Collections.either_of_pairwise sorted (members a listed) (members b listed') apart with ⟨le, _⟩ | ⟨_, recognised⟩
  · rw [sortKey_le_iff, number, none, Option.getD_some, Option.getD_none] at le
    rcases le with less | ⟨_, after⟩
    · exact absurd less (Nat.lt_irrefl _)
    · exact absurd before (not_lt_of_ge after)
  · rw [number, none] at recognised
    cases recognised rfl

/-- A listing comes out in order exactly when no name without a number comes
before the last number there is: the two share one key. -/
theorem sortByIndex_inOrder_iff (names : List String) : InOrder names (sortByIndex names) ↔ ¬Displaced names :=
  ⟨fun ordered displaced => not_inOrder_of_displaced displaced ordered, inOrder_of_not_displaced⟩

theorem unnumbered_name_comes_first :
    ¬InOrder ["hidraw4294967295", "hidraw"] (sortByIndex ["hidraw4294967295", "hidraw"]) := by
  refine not_inOrder_of_displaced ⟨"hidraw4294967295", by simp, "hidraw", by simp, ?_, ?_, ?_⟩
  · decide
  · decide
  · decide

end OpenRazer
