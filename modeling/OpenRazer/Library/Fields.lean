import Mathlib.Data.List.DropRight
import Mathlib.Data.List.Infix

/-! Looking for a field between its two marks in a text made of such fields. -/

namespace Fields
variable {A : Type*} {start stop other : A} {field part rest : List A}

/-- What begins with a mark is not found before that mark. -/
theorem infix_append_iff (absent : start ∉ part) :
    start :: field <:+: part ++ rest ↔ start :: field <:+: rest := by
  induction part with
  | nil => rfl
  | cons c part ih =>
    obtain ⟨apart, absent⟩ := List.ne_and_not_mem_of_not_mem_cons absent
    rw [List.cons_append, List.infix_cons_iff, List.cons_prefix_cons, ih absent]
    exact or_iff_right fun found => apart found.1

/-- A field and its end are all there is up to that end. -/
theorem prefix_append_iff (ended : stop ∉ part) (unended : other ∉ field) :
    field ++ [stop] <+: part ++ other :: rest ↔ field = part ∧ stop = other := by
  induction field generalizing part with
  | nil =>
    cases part with
    | nil => simp [List.cons_prefix_cons]
    | cons c part =>
      have apart := (List.ne_and_not_mem_of_not_mem_cons ended).1
      simp [List.cons_prefix_cons, apart]
  | cons c field ih =>
    obtain ⟨apart, unended⟩ := List.ne_and_not_mem_of_not_mem_cons unended
    cases part with
    | nil => simp [List.cons_prefix_cons, Ne.symm apart]
    | cons d part =>
      have ended := (List.ne_and_not_mem_of_not_mem_cons ended).2
      rw [List.cons_append, List.cons_append, List.cons_prefix_cons, ih ended unended, List.cons.injEq, and_assoc]

/-- A text is cut at its first mark in one way only. -/
theorem append_mark_inj {part' rest' : List A} (absent : stop ∉ part) (absent' : stop ∉ part') :
    part ++ stop :: rest = part' ++ stop :: rest' ↔ part = part' ∧ rest = rest' := by
  induction part generalizing part' with
  | nil =>
    cases part' with
    | nil => simp
    | cons d part' =>
      have apart := List.ne_of_not_mem_cons absent'
      simp [apart]
  | cons c part ih =>
    obtain ⟨apart, absent⟩ := List.ne_and_not_mem_of_not_mem_cons absent
    cases part' with
    | nil => simp [Ne.symm apart]
    | cons d part' =>
      rw [List.cons_append, List.cons_append, List.cons.injEq, ih absent (List.not_mem_of_not_mem_cons absent'), List.cons.injEq,
        and_assoc]

/-- A part that is written twice into a text, ended by a mark once, and one that is written behind it. -/
theorem twice_inj {a b c d part' field' : List A} (absent : stop ∉ part) (absent' : stop ∉ part')
    (same : a ++ (part ++ stop :: b ++ (part ++ c ++ (field ++ d))) = a ++ (part' ++ stop :: b ++ (part' ++ c ++ (field' ++ d)))) :
    part = part' ∧ field = field' := by
  have tails := List.append_cancel_left same
  simp only [List.append_assoc, List.cons_append] at tails
  rw [append_mark_inj absent absent'] at tails
  obtain ⟨rfl, tails⟩ := tails
  exact ⟨rfl, List.append_cancel_right (List.append_cancel_left (List.append_cancel_left (List.append_cancel_left tails)))⟩

/-- Behind the last mark, and in front of it. -/
theorem rtakeWhile_mark [DecidableEq A] (absent : stop ∉ part) : (rest ++ stop :: part).rtakeWhile (· ≠ stop) = part := by
  have kept : ∀ c ∈ part.reverse, decide (c ≠ stop) = true := fun c member =>
    decide_eq_true fun same => absent (same ▸ List.mem_reverse.mp member)
  rw [List.rtakeWhile, List.reverse_append, List.reverse_cons, List.append_assoc, List.takeWhile_append_of_pos kept]
  simp

theorem rdropWhile_mark [DecidableEq A] (absent : stop ∉ part) :
    (rest ++ stop :: part).rdropWhile (· ≠ stop) = rest ++ [stop] := by
  have kept : ∀ c ∈ part.reverse, decide (c ≠ stop) = true := fun c member =>
    decide_eq_true fun same => absent (same ▸ List.mem_reverse.mp member)
  rw [List.rdropWhile, List.reverse_append, List.reverse_cons, List.append_assoc, List.dropWhile_append_of_pos kept]
  simp

end Fields
