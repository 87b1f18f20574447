import OpenRazer.Library.Prog

universe u u' v w w' x

/-! A program that keeps a log of what its environment answered, and the same
program in an environment that answers from such a log. -/

namespace Prog

variable {S : Type u} {T : Type u'} {ε : Type v} {E : Type x}

theorem Agree.eq {α : Type w} {a b : Except ε α} (agree : Agree Eq a b) : a = b := by
  cases agree with
  | ok same => rw [same]
  | error e => rfl

/-- `q` run where the answers that `p` is about to log are still to come does
what `p` does, as long as they are good. `M s t future` ties the state of `p` to
the state of `q` with the answers it has in store. -/
def Replays (log : S → List E) (Good : E → Prop) (M : S → T → List E → Prop) {α : Type w} {β : Type w'} (A : α → β → Prop)
    (p : Prog S ε α) (q : Prog T ε β) : Prop :=
  ∀ s, ∃ events, log (p s).2 = log s ++ events ∧
    ((∀ e ∈ events, Good e) → ∀ t later, M s t (events ++ later) → Agree A (p s).1 (q t).1 ∧ M (p s).2 (q t).2 later)

namespace Replays

variable {log : S → List E} {Good : E → Prop} {M : S → T → List E → Prop} {α₁ α₂ β₁ β₂ : Type w}
  {A : α₁ → α₂ → Prop} {B : β₁ → β₂ → Prop}

theorem lift {a : Except ε α₁} {b : Except ε α₂} (same : Agree A a b) :
    Replays log Good M A (Prog.lift a : Prog S ε α₁) (Prog.lift b : Prog T ε α₂) := by
  intro s
  refine ⟨[], (List.append_nil _).symm, fun _ t later ties => ⟨same, ?_⟩⟩
  simpa using ties

theorem pure {a : α₁} {b : α₂} (same : A a b) :
    Replays log Good M A (Pure.pure a : Prog S ε α₁) (Pure.pure b : Prog T ε α₂) :=
  lift (.ok same)

theorem fail (e : ε) : Replays log Good M A (Prog.fail e : Prog S ε α₁) (Prog.fail e : Prog T ε α₂) :=
  lift (.error e)

theorem read {f : S → α₁} {g : T → α₂} (same : ∀ s t future, M s t future → A (f s) (g t)) :
    Replays log Good M A (Prog.read f : Prog S ε α₁) (Prog.read g) := by
  intro s
  refine ⟨[], (List.append_nil _).symm, fun _ t later ties => ⟨.ok (same s t _ ties), ?_⟩⟩
  simpa using ties

/-- What is not logged needs no answer. -/
theorem modify {f : S → S} {g : T → T} (silent : ∀ s, log (f s) = log s)
    (keeps : ∀ s t future, M s t future → M (f s) (g t) future) :
    Replays log Good M Eq (Prog.modify f : Prog S ε PUnit.{w + 1}) (Prog.modify g : Prog T ε PUnit.{w + 1}) := by
  intro s
  refine ⟨[], ?_, fun _ t later ties => ⟨.ok rfl, ?_⟩⟩
  · rw [List.append_nil]
    exact silent s
  · exact keeps s t later (by simpa using ties)

theorem bind {p : Prog S ε α₁} {q : Prog T ε α₂} {f : α₁ → Prog S ε β₁} {g : α₂ → Prog T ε β₂}
    (total : ∀ a, ∃ b, A a b) (first : Replays log Good M A p q)
    (next : ∀ a b, A a b → Replays log Good M B (f a) (g b)) : Replays log Good M B (p >>= f) (q >>= g) := by
  intro s
  obtain ⟨events, grown, replays⟩ := first s
  rcases run : p s with ⟨e | a, s'⟩
  · rw [run] at grown replays
    rw [bind_of_error run]
    refine ⟨events, grown, fun good t later ties => ?_⟩
    obtain ⟨agree, after⟩ := replays good t later ties
    rcases run' : q t with ⟨e' | b, t'⟩
    · rw [run'] at agree after
      rw [bind_of_error run']
      cases agree
      exact ⟨.error e, after⟩
    · rw [run'] at agree
      cases agree
  · rw [run] at grown replays
    rw [bind_of_ok run]
    obtain ⟨some, related⟩ := total a
    obtain ⟨events', grown', _⟩ := next a some related s'
    refine ⟨events ++ events', by rw [grown', grown, List.append_assoc], fun good t later ties => ?_⟩
    obtain ⟨good, good'⟩ := List.forall_mem_append.mp good
    rw [List.append_assoc] at ties
    obtain ⟨agree, between⟩ := replays good t (events' ++ later) ties
    rcases run' : q t with ⟨e' | b, t'⟩
    · rw [run'] at agree
      cases agree
    · rw [run'] at agree between
      rw [bind_of_ok run']
      cases agree with
      | ok same =>
        obtain ⟨events'', grown'', replays'⟩ := next a b same s'
        rw [grown'] at grown''
        obtain rfl := List.append_cancel_left grown''
        exact replays' good' t' later between

/-- Two loops whose bodies replay each other do so as well. -/
theorem loop {f : Nat → β₁ → Prog S ε (α₁ ⊕ β₁)} {g : Nat → β₁ → Prog T ε (α₁ ⊕ β₁)}
    (body : ∀ i b, Replays log Good M Eq (f i b) (g i b)) (n i : Nat) (b : β₁) :
    Replays log Good M Eq (Prog.loop f n i b) (Prog.loop g n i b) := by
  induction n generalizing i b with
  | zero => exact pure rfl
  | succ n ih =>
    refine bind (fun a => ⟨a, rfl⟩) (body i b) ?_
    rintro left _ rfl
    cases left with
    | inl c => exact pure rfl
    | inr b => exact ih (i + 1) b

/-- A whole run of programs is replayed from what all of them logged. -/
theorem runs {ι : Type*} {f : ι → Prog S ε α₁} {g : ι → Prog T ε α₁} (each : ∀ i, Replays log Good M Eq (f i) (g i))
    (l : List ι) (s : S) : ∃ events, log (Prog.runs f l s).2 = log s ++ events ∧
      ((∀ e ∈ events, Good e) → ∀ t later, M s t (events ++ later) →
        (Prog.runs g l t).1 = (Prog.runs f l s).1 ∧ M (Prog.runs f l s).2 (Prog.runs g l t).2 later) := by
  induction l generalizing s with
  | nil => exact ⟨[], (List.append_nil _).symm, fun _ t later ties => ⟨rfl, ties⟩⟩
  | cons i rest ih =>
    obtain ⟨events, grown, replays⟩ := each i s
    obtain ⟨events', grown', replays'⟩ := ih (f i s).2
    refine ⟨events ++ events', ?_, fun good t later ties => ?_⟩
    · rw [← List.append_assoc, ← grown]
      exact grown'
    · obtain ⟨good, good'⟩ := List.forall_mem_append.mp good
      rw [List.append_assoc] at ties
      obtain ⟨agree, between⟩ := replays good t (events' ++ later) ties
      obtain ⟨same, after⟩ := replays' good' (g i t).2 later between
      exact ⟨congrArg₂ List.cons agree.eq.symm same, after⟩

end Replays

end Prog
