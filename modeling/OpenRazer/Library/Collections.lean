import Mathlib.Data.List.Infix
import Mathlib.Data.List.Nodup
import Mathlib.Data.List.Pairwise
import Mathlib.Order.Lattice
import Mathlib.Tactic.Common

/-! Lists that are made of the entries of others, and of the keys of maps. -/

namespace Collections

theorem mapM_of_each {A B : Type} {f : A → Option B} {g : A → B} {xs : List A} (each : ∀ x ∈ xs, f x = some (g x)) :
    xs.mapM f = some (xs.map g) := by
  induction xs with
  | nil => rfl
  | cons x xs ih =>
    obtain ⟨here, later⟩ := List.forall_mem_cons.mp each
    rw [List.mapM_cons, here, ih later]
    rfl

/-- Looking up the keys of a map one by one, or going through its entries. -/
theorem filterMap_keys {κ β S : Type*} {cmp : κ → κ → Ordering} [Std.TransCmp cmp] [Std.LawfulEqCmp cmp]
    (m : Std.ExtTreeMap κ β cmp) {f : κ → Option S} {g : κ × β → Option S} (reads : ∀ k v, m[k]? = some v → f k = g (k, v)) :
    m.keys.filterMap f = m.toList.filterMap g := by
  rw [← Std.ExtTreeMap.map_fst_toList_eq_keys, List.filterMap_map]
  refine List.filterMap_congr fun entry member => reads entry.1 entry.2 ?_
  exact Std.ExtTreeMap.mem_toList_iff_getElem?_eq_some.mp member

/-- Pairs of which none is listed twice. -/
theorem nodup_flatMap_map {A B C : Type*} {xs : List A} {ys : A → List B} {f : A → B → C}
    (injective : ∀ {a a' b b'}, f a b = f a' b' → a = a' ∧ b = b') (firsts : xs.Nodup) (seconds : ∀ a, (ys a).Nodup) :
    (xs.flatMap fun a => (ys a).map (f a)).Nodup := by
  rw [List.nodup_flatMap]
  refine ⟨fun a _ => (seconds a).map fun b b' same => (injective same).2, ?_⟩
  refine firsts.imp fun {a a'} apart => ?_
  intro c first second
  obtain ⟨b, _, rfl⟩ := List.mem_map.mp first
  obtain ⟨b', _, same⟩ := List.mem_map.mp second
  exact apart (injective same).1.symm

theorem mem_keys_of_stored {κ β : Type*} {cmp : κ → κ → Ordering} [Std.TransCmp cmp] [Std.LawfulEqCmp cmp]
    {m : Std.ExtTreeMap κ β cmp} {key : κ} {v : β} (stored : m[key]? = some v) : key ∈ m.keys := by
  rw [Std.ExtTreeMap.mem_keys, Std.ExtTreeMap.mem_iff_isSome_getElem?, stored]
  rfl

/-- Of two entries one stands in front of the other. -/
theorem either_of_pairwise {A : Type*} {xs : List A} {R : A → A → Prop} (related : xs.Pairwise R) {a b : A} (first : a ∈ xs)
    (second : b ∈ xs) (apart : a ≠ b) : R a b ∨ R b a := by
  have symmetric : Std.Symm fun x y => R x y ∨ R y x := ⟨fun _ _ either => either.symm⟩
  exact (related.imp fun {x y} here => (Or.inl here : R x y ∨ R y x)).forall first second apart

/-- An entry stands first, or behind a first one that is passed. -/
theorem exists_split_cons {A : Type*} {x y : A} {xs : List A} {P : A → Prop} :
    (∃ before after, y :: xs = before ++ x :: after ∧ ∀ other ∈ before, P other) ↔
      y = x ∨ P y ∧ ∃ before after, xs = before ++ x :: after ∧ ∀ other ∈ before, P other := by
  constructor
  · rintro ⟨before, after, split, each⟩
    cases before with
    | nil => exact Or.inl (List.cons_eq_cons.mp split).1
    | cons first before =>
      obtain ⟨rfl, rfl⟩ := List.cons_eq_cons.mp split
      obtain ⟨here, later⟩ := List.forall_mem_cons.mp each
      exact Or.inr ⟨here, before, after, rfl, later⟩
  · rintro (rfl | ⟨here, before, after, rfl, later⟩)
    · exact ⟨[], xs, rfl, fun _ member => by cases member⟩
    · exact ⟨y :: before, after, rfl, List.forall_mem_cons.mpr ⟨here, later⟩⟩

/-- In ascending order what stands in front of an entry is what is below it. -/
theorem sorted_split {A K : Type*} [LinearOrder K] {key : A → K} (injective : Function.Injective key) {xs : List A}
    (sorted : xs.Pairwise fun a b => key a ≤ key b) {x : A} {P : A → Prop} :
    (∃ before after, xs = before ++ x :: after ∧ ∀ other ∈ before, P other) ↔
      x ∈ xs ∧ ∀ other ∈ xs, key other < key x → P other := by
  constructor
  · rintro ⟨before, after, rfl, each⟩
    refine ⟨List.mem_append_right _ (List.mem_cons_self ..), ?_⟩
    intro other placed lower
    rcases List.mem_append.mp placed with earlier | later
    · exact each other earlier
    · rcases List.mem_cons.mp later with rfl | later
      · exact absurd lower (lt_irrefl _)
      · have above := (List.pairwise_cons.mp (List.pairwise_append.mp sorted).2.1).1 other later
        exact absurd lower (not_lt.mpr above)
  · rintro ⟨member, lower⟩
    obtain ⟨before, after, rfl, first⟩ := List.eq_append_cons_of_mem member
    refine ⟨before, after, rfl, ?_⟩
    intro other earlier
    have below := (List.pairwise_append.mp sorted).2.2 other earlier x (List.mem_cons_self ..)
    have apart : key other ≠ key x := fun tied => first (injective tied ▸ earlier)
    exact lower other (List.mem_append_left _ earlier) (lt_of_le_of_ne below apart)

/-- The same of what has been sorted. -/
theorem mergeSort_split {A : Type*} [LinearOrder A] {xs : List A} {x : A} {P : A → Prop} :
    (∃ before after, (xs.mergeSort fun a b => decide (a ≤ b)) = before ++ x :: after ∧ ∀ other ∈ before, P other) ↔
      x ∈ xs ∧ ∀ other ∈ xs, other < x → P other := by
  have sorted : (xs.mergeSort fun a b => decide (a ≤ b)).Pairwise fun a b => id a ≤ id b := by
    refine (List.pairwise_mergeSort ?_ ?_ xs).imp of_decide_eq_true
    · intro a b c first second
      exact decide_eq_true (le_trans (of_decide_eq_true first) (of_decide_eq_true second))
    · intro a b
      simpa using le_total a b
  rw [sorted_split Function.injective_id sorted]
  simp only [List.mem_mergeSort, id]

/-- Lines without line breaks are what a text is cut into at its line breaks. -/
theorem splitOn_lines {lines : List String} (each : ∀ line ∈ lines, '\n' ∉ line.toList) :
    (String.join (lines.map (· ++ "\n"))).toList.splitOn '\n' = lines.map String.toList ++ [[]] := by
  induction lines with
  | nil => rfl
  | cons line lines ih =>
    obtain ⟨here, later⟩ := List.forall_mem_cons.mp each
    have parts : (String.join ((line :: lines).map (· ++ "\n"))).toList =
        line.toList ++ '\n' :: (String.join (lines.map (· ++ "\n"))).toList := by
      simp
    rw [parts, List.splitOn_append_cons_self_of_not_mem here, ih later, List.map_cons, List.cons_append]

/-- The longest tail that meets `p`, if it is among the first `n`. -/
theorem find?_tails {α : Type*} {p : List α → Bool} {l tail : List α} {n : Nat} :
    (l.tails.take n).find? p = some tail ↔ ∃ front, l = front ++ tail ∧ front.length < n ∧ p tail = true ∧
      ∀ nearer farther, front = nearer ++ farther → farther ≠ [] → p (farther ++ tail) = false := by
  induction n generalizing l with
  | zero => simp
  | succ n ih =>
    by_cases here : p l = true
    · have found : (l.tails.take (n + 1)).find? p = some l := by
        cases l <;> simp [here]
      rw [found, Option.some.injEq]
      constructor
      · rintro rfl
        refine ⟨[], rfl, Nat.zero_lt_succ n, here, ?_⟩
        intro nearer farther split some
        exact absurd (List.append_eq_nil_iff.mp split.symm).2 some
      · rintro ⟨front, rfl, _, _, none⟩
        by_cases empty : front = []
        · rw [empty, List.nil_append]
        · have other := none [] front rfl empty
          rw [here] at other
          cases other
    · cases l with
      | nil =>
        have missed : (([] : List α).tails.take (n + 1)).find? p = none := by
          simp [here]
        simp only [missed, reduceCtorEq, false_iff]
        rintro ⟨front, split, _, found, _⟩
        obtain ⟨_, rfl⟩ := List.append_eq_nil_iff.mp split.symm
        exact here found
      | cons first rest =>
        have skipped : ((first :: rest).tails.take (n + 1)).find? p = (rest.tails.take n).find? p := by
          simp [here]
        rw [skipped, ih]
        constructor
        · rintro ⟨front, rfl, short, found, none⟩
          refine ⟨first :: front, rfl, Nat.succ_lt_succ short, found, ?_⟩
          intro nearer farther split some
          cases nearer with
          | nil =>
            rw [List.nil_append] at split
            rw [← split, List.cons_append]
            exact Bool.eq_false_iff.mpr here
          | cons _ nearer => exact none nearer farther (List.cons.inj split).2 some
        · rintro ⟨front, split, short, found, none⟩
          cases front with
          | nil =>
            rw [List.nil_append] at split
            exact absurd (split ▸ found) here
          | cons _ front =>
            obtain ⟨rfl, rfl⟩ := List.cons_eq_cons.mp split
            refine ⟨front, rfl, Nat.lt_of_succ_lt_succ short, found, ?_⟩
            intro nearer farther split some
            exact none (first :: nearer) farther (by rw [split, List.cons_append]) some

end Collections
