import Mathlib.Tactic.Common

/-! Reading lines from a stream that may never end: `BufRead::read_until` on `take`. -/

namespace Stream

/-- What a reader finds at one place of a stream. -/
inductive Arrival
  | byte (b : UInt8)
  | closed
  | failed
deriving DecidableEq

/-- A stream by what is found at each place of it, be it endless or not. -/
abbrev Source := Nat → Arrival

/-- The bytes up to a mark, the end or the limit, and whether the reader failed on the way. -/
def readUntil (source : Source) (mark : UInt8) : Nat → Nat → List UInt8 × Bool
  | 0, _ => ([], false)
  | limit + 1, place =>
    match source place with
    | .closed => ([], false)
    | .failed => ([], true)
    | .byte b =>
      if b = mark then ([b], false)
      else
        let rest := readUntil source mark limit (place + 1)
        (b :: rest.1, rest.2)

/-- What one read takes from a place of the stream on, whether it fails or not. -/
structure Chunk (source : Source) (mark : UInt8) (limit place : Nat) (taken : List UInt8) (failed : Bool) : Prop where
  within : taken.length ≤ limit
  sent : ∀ i b, taken[i]? = some b → source (place + i) = .byte b
  unmarked : mark ∉ taken.dropLast
  finished : failed = false →
    taken.length = limit ∨ taken.getLast? = some mark ∨ source (place + taken.length) = .closed
  cut : failed = true → source (place + taken.length) = .failed

variable {source : Source} {mark : UInt8}

/-- A byte that is no mark in front of a chunk is part of it. -/
theorem Chunk.cons {limit place : Nat} {taken : List UInt8} {failed : Bool} {b : UInt8} (here : source place = .byte b)
    (unmarked : b ≠ mark) (rest : Chunk source mark limit (place + 1) taken failed) :
    Chunk source mark (limit + 1) place (b :: taken) failed := by
  have shifted (n : Nat) : place + 1 + n = place + (n + 1) := by omega
  refine ⟨Nat.succ_le_succ rest.within, ?_, ?_, ?_, ?_⟩
  · intro i c at_i
    cases i with
    | zero =>
      obtain rfl := Option.some.inj at_i
      exact here
    | succ i =>
      rw [List.getElem?_cons_succ] at at_i
      rw [← shifted]
      exact rest.sent i c at_i
  · have absent := rest.unmarked
    cases taken with
    | nil => simp
    | cons c cs =>
      rw [List.dropLast_cons_cons, List.mem_cons]
      exact not_or.mpr ⟨Ne.symm unmarked, absent⟩
  · intro whole
    rcases rest.finished whole with full | marked | closed
    · exact Or.inl (congrArg Nat.succ full)
    · refine Or.inr (Or.inl ?_)
      rw [List.getLast?_cons, marked, Option.getD_some]
    · exact Or.inr (Or.inr (by rwa [List.length_cons, ← shifted]))
  · intro broken
    rw [List.length_cons, ← shifted]
    exact rest.cut broken

theorem Chunk.ended {limit place : Nat} (here : source place = .byte mark) :
    Chunk source mark (limit + 1) place [mark] false := by
  refine ⟨Nat.succ_le_succ (Nat.zero_le _), ?_, by simp, fun _ => Or.inr (Or.inl rfl), by simp⟩
  intro i c at_i
  cases i with
  | zero =>
    obtain rfl := Option.some.inj at_i
    exact here
  | succ i => simp at at_i

theorem readUntil_spec (limit place : Nat) :
    Chunk source mark limit place (readUntil source mark limit place).1 (readUntil source mark limit place).2 := by
  induction limit generalizing place with
  | zero => exact ⟨Nat.le_refl _, by simp [readUntil], by simp [readUntil], fun _ => Or.inl rfl, by simp [readUntil]⟩
  | succ limit ih =>
    rw [readUntil]
    cases here : source place with
    | closed => exact ⟨Nat.zero_le _, by simp, by simp, fun _ => Or.inr (Or.inr here), by simp⟩
    | failed => exact ⟨Nat.zero_le _, by simp, by simp, by simp, fun _ => here⟩
    | byte b =>
      simp only
      split
      · rename_i marked
        rw [marked] at here ⊢
        exact Chunk.ended here
      · rename_i unmarked
        exact (ih (place + 1)).cons here unmarked

theorem Chunk.absent {limit place : Nat} {taken : List UInt8} {failed : Bool} (chunk : Chunk source mark limit place taken failed)
    (unended : taken.getLast? ≠ some mark) : mark ∉ taken := by
  intro member
  rcases taken.eq_nil_or_concat with rfl | ⟨front, b, rfl⟩
  · cases member
  · rw [List.concat_eq_append] at member unended
    have absent := chunk.unmarked
    rw [List.concat_eq_append, List.dropLast_concat] at absent
    rcases List.mem_append.mp member with earlier | last
    · exact absent earlier
    · rw [List.getLast?_concat, List.mem_singleton.mp last] at unended
      exact unended rfl

/-- Reads that follow each other, each from the place the one before it stopped at. -/
def Successive (source : Source) (mark : UInt8) (limit : Nat) : Nat → List (List UInt8) → Prop
  | _, [] => True
  | place, taken :: later =>
    (∃ failed, Chunk source mark limit place taken failed) ∧ Successive source mark limit (place + taken.length) later

theorem Successive.within {limit place : Nat} {reads : List (List UInt8)}
    (successive : Successive source mark limit place reads) : ∀ taken ∈ reads, taken.length ≤ limit := by
  induction reads generalizing place with
  | nil => simp
  | cons taken later ih =>
    obtain ⟨⟨_, chunk⟩, rest⟩ := successive
    exact List.forall_mem_cons.mpr ⟨chunk.within, ih rest⟩

/-- All that was read together is what the stream had from there on. -/
theorem Successive.sent {limit place : Nat} {reads : List (List UInt8)} (successive : Successive source mark limit place reads)
    (i : Nat) (b : UInt8) (at_i : reads.flatten[i]? = some b) : source (place + i) = .byte b := by
  induction reads generalizing place i with
  | nil => simp at at_i
  | cons taken later ih =>
    obtain ⟨⟨_, chunk⟩, rest⟩ := successive
    rw [List.flatten_cons] at at_i
    by_cases here : i < taken.length
    · rw [List.getElem?_append_left here] at at_i
      exact chunk.sent i b at_i
    · rw [List.getElem?_append_right (by omega)] at at_i
      have shifted : place + i = place + taken.length + (i - taken.length) := by omega
      rw [shifted]
      exact ih rest (i - taken.length) at_i

end Stream
