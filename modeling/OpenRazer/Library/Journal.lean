import Mathlib.Data.List.Basic
import Mathlib.Logic.Function.Basic
import Mathlib.Tactic.Common

/-! Stores whose writes may get lost unless they are acknowledged. -/

namespace Journal

section

variable {S W : Type*} (put : S → W → S)

/-- What a journal of writes can leave of a store: each is taken as a whole or
lost, and lost only where there is no acknowledgement. -/
inductive Leaves : S → List (W × Bool) → S → Prop
  | nil (s : S) : Leaves s [] s
  | lost {s t : S} {write : W} {rest : List (W × Bool)} : Leaves s rest t → Leaves s ((write, false) :: rest) t
  | taken {s t : S} {write : W} {acknowledged : Bool} {rest : List (W × Bool)} :
      Leaves (put s write) rest t → Leaves s ((write, acknowledged) :: rest) t

variable {put} {s t u : S}

theorem Leaves.append {first second : List (W × Bool)} (before : Leaves put s first t) (after : Leaves put t second u) :
    Leaves put s (first ++ second) u := by
  induction before with
  | nil s => exact after
  | lost _ ih => exact .lost (ih after)
  | taken _ ih => exact .taken (ih after)

theorem Leaves.single {write : W} {acknowledged : Bool} (either : t = s ∨ t = put s write)
    (confirmed : acknowledged = true → t = put s write) : Leaves put s [(write, acknowledged)] t := by
  cases acknowledged with
  | true =>
    obtain rfl := confirmed rfl
    exact .taken (.nil _)
  | false =>
    rcases either with rfl | rfl
    · exact .lost (.nil _)
    · exact .taken (.nil _)

end

section

variable {K V : Type*}

/-- No write of a key in the journal was acknowledged. -/
def Unconfirmed (key : K) (journal : List ((K × V) × Bool)) : Prop :=
  ∀ entry ∈ journal, entry.1.1 = key → entry.2 = false

variable [DecidableEq K]

/-- A write replaces the value under its key. -/
def store (values : K → Option V) (write : K × V) : K → Option V :=
  Function.update values write.1 (some write.2)

/-- All of the writes, one after the other. -/
def replay (values : K → Option V) (writes : List (K × V)) : K → Option V :=
  writes.foldl store values

theorem replay_append (values : K → Option V) (first second : List (K × V)) :
    replay values (first ++ second) = replay (replay values first) second :=
  List.foldl_append

theorem replay_cons (values : K → Option V) (write : K × V) (writes : List (K × V)) :
    replay values (write :: writes) = replay (store values write) writes :=
  rfl

/-- What no write touches stays. -/
theorem replay_untouched {values : K → Option V} {writes : List (K × V)} {key : K}
    (untouched : ∀ write ∈ writes, write.1 ≠ key) : replay values writes key = values key := by
  induction writes generalizing values with
  | nil => rfl
  | cons write writes ih =>
    obtain ⟨other, rest⟩ := List.forall_mem_cons.mp untouched
    rw [replay_cons, ih rest, store, Function.update_of_ne other.symm]

/-- Where all writes of a key agree and there is one, that is what it holds. -/
theorem replay_agreed {values : K → Option V} {writes : List (K × V)} {key : K} {value : V}
    (agreed : ∀ write ∈ writes, write.1 = key → write.2 = value) (written : ∃ write ∈ writes, write.1 = key) :
    replay values writes key = some value := by
  induction writes generalizing values with
  | nil =>
    obtain ⟨_, member, _⟩ := written
    exact absurd member List.not_mem_nil
  | cons write writes ih =>
    obtain ⟨here, rest⟩ := List.forall_mem_cons.mp agreed
    rw [replay_cons]
    by_cases later : ∃ write ∈ writes, write.1 = key
    · exact ih rest later
    · have untouched : ∀ write ∈ writes, write.1 ≠ key := fun w member own => later ⟨w, member, own⟩
      obtain ⟨w, member, own⟩ := written
      obtain rfl | member := List.mem_cons.mp member
      · rw [replay_untouched untouched, store, own, Function.update_self, here own]
      · exact absurd own (untouched w member)

/-- What is read under a key was written by a write of the journal, and none
behind that one was acknowledged; or it was there before, and none at all was. -/
theorem Leaves.read {values values' : K → Option V} {journal : List ((K × V) × Bool)}
    (leaves : Leaves store values journal values') (key : K) :
    (values' key = values key ∧ Unconfirmed key journal) ∨
      ∃ before value acknowledged after, journal = before ++ ((key, value), acknowledged) :: after ∧
        values' key = some value ∧ Unconfirmed key after := by
  induction leaves with
  | nil values => exact Or.inl ⟨rfl, fun _ member => absurd member List.not_mem_nil⟩
  | @lost values values' write rest _ ih =>
    rcases ih with ⟨same, none⟩ | ⟨before, value, acknowledged, after, rfl, read, none⟩
    · exact Or.inl ⟨same, List.forall_mem_cons.mpr ⟨fun _ => rfl, none⟩⟩
    · exact Or.inr ⟨(write, false) :: before, value, acknowledged, after, rfl, read, none⟩
  | @taken values values' write acknowledged rest _ ih =>
    rcases ih with ⟨same, none⟩ | ⟨before, value, known, after, rfl, read, none⟩
    · by_cases here : write.1 = key
      · subst here
        have stored : values' write.1 = some write.2 := by
          rw [same, store, Function.update_self]
        exact Or.inr ⟨[], write.2, acknowledged, rest, rfl, stored, none⟩
      · have kept : values' key = values key := by
          rw [same, store, Function.update_of_ne (Ne.symm here)]
        exact Or.inl ⟨kept, List.forall_mem_cons.mpr ⟨fun own => absurd own here, none⟩⟩
    · exact Or.inr ⟨(write, acknowledged) :: before, value, known, after, rfl, read, none⟩

end

end Journal
