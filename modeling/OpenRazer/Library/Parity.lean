import Mathlib.Data.List.Perm.Basic

/-! Sums of lists under an operation for which every element is its own inverse. -/

namespace Parity

variable {α : Type*} {op : α → α → α} {e : α}

/-- `iter().fold(e, op)`. -/
def fold (op : α → α → α) (e : α) (xs : List α) : α :=
  xs.foldl op e

/-- The order does not matter. -/
theorem fold_perm [Std.Associative op] [Std.Commutative op] {xs ys : List α} (same : xs.Perm ys) :
    fold op e xs = fold op e ys := by
  have swap : RightCommutative op := ⟨fun a b c => by ac_rfl⟩
  exact same.foldl_eq e

variable [Std.Associative op] [neutral : Std.LawfulIdentity op e]

theorem fold_cons (x : α) (xs : List α) : fold op e (x :: xs) = op x (fold op e xs) := by
  have step : xs.foldl op (op x e) = op x (xs.foldl op e) := List.foldl_assoc
  rw [fold, fold, List.foldl_cons, neutral.left_id, ← step, neutral.right_id]

theorem fold_append (xs ys : List α) : fold op e (xs ++ ys) = op (fold op e xs) (fold op e ys) := by
  induction xs with
  | nil => exact (neutral.left_id _).symm
  | cons x xs ih =>
    rw [List.cons_append, fold_cons, fold_cons, ih]
    ac_rfl

theorem fold_of_forall {xs : List α} (each : ∀ x ∈ xs, x = e) : fold op e xs = e := by
  induction xs with
  | nil => rfl
  | cons x xs ih =>
    obtain ⟨here, later⟩ := List.forall_mem_cons.mp each
    rw [fold_cons, here, ih later, neutral.left_id]

/-- Where everything else is neutral, one element is the sum. -/
theorem fold_single {xs : List α} {i : Nat} (bound : i < xs.length)
    (others : ∀ j (inside : j < xs.length), j ≠ i → xs[j] = e) : fold op e xs = xs[i] := by
  have before : ∀ x ∈ xs.take i, x = e := by
    intro x member
    obtain ⟨j, inside, rfl⟩ := List.mem_iff_getElem.mp member
    rw [List.length_take] at inside
    rw [List.getElem_take]
    exact others j (by omega) (by omega)
  have after : ∀ x ∈ xs.drop (i + 1), x = e := by
    intro x member
    obtain ⟨j, inside, rfl⟩ := List.mem_iff_getElem.mp member
    rw [List.length_drop] at inside
    rw [List.getElem_drop]
    exact others (i + 1 + j) (by omega) (by omega)
  have parts : xs.take i ++ xs[i] :: xs.drop (i + 1) = xs := by
    rw [← List.drop_eq_getElem_cons bound, List.take_append_drop]
  have whole : fold op e (xs.take i ++ xs[i] :: xs.drop (i + 1)) = xs[i] := by
    rw [fold_append, fold_cons, fold_of_forall before, fold_of_forall after, neutral.left_id, neutral.right_id]
  rwa [parts] at whole

/-- Folding is linear. -/
theorem fold_zipWith [Std.Commutative op] {xs ys : List α} (same : xs.length = ys.length) :
    fold op e (List.zipWith op xs ys) = op (fold op e xs) (fold op e ys) := by
  induction xs generalizing ys with
  | nil =>
    obtain rfl := List.length_eq_zero_iff.mp same.symm
    exact (neutral.left_id _).symm
  | cons x xs ih =>
    cases ys with
    | nil => cases same
    | cons y ys =>
      rw [List.zipWith_cons_cons, fold_cons, fold_cons, fold_cons, ih (Nat.succ.inj same)]
      ac_rfl

end Parity
