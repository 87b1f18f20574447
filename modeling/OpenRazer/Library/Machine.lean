import Mathlib.Tactic.Common

/-! Machines that are told by their environment what happens next. -/

namespace Machine

variable {S C : Type*} (next : S → C → S)

def run (s : S) : List C → S
  | [] => s
  | c :: rest => run (next s c) rest

/-- Every step of the run is taken in a state that allows it. -/
def Meets (allows : S → C → Prop) (s : S) : List C → Prop
  | [] => True
  | c :: rest => allows s c ∧ Meets allows (next s c) rest

instance decidableMeets (allows : S → C → Prop) [∀ s c, Decidable (allows s c)] :
    ∀ (s : S) (choices : List C), Decidable (Meets next allows s choices)
  | _, [] => .isTrue trivial
  | s, c :: rest => @instDecidableAnd _ _ _ (decidableMeets allows (next s c) rest)

variable {next}

/-- What every allowed step preserves holds at the end of every run of allowed steps. -/
theorem run_invariant {inv : S → Prop} {allows : S → C → Prop}
    (step : ∀ s c, inv s → allows s c → inv (next s c)) {s : S} {choices : List C}
    (start : inv s) (meets : Meets next allows s choices) : inv (run next s choices) := by
  induction choices generalizing s with
  | nil => exact start
  | cons c rest ih => exact ih (step s c start meets.1) meets.2

end Machine
