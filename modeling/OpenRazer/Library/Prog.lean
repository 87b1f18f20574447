import Mathlib.Data.List.Forall2

universe u u' v w w'

/-- A program over a state that outlives its failure: whatever was done
before an error stays done, as for a function on `&mut self` that returns a `Result`. -/
def Prog (S : Type u) (ε : Type v) (α : Type w) := S → Except ε α × S

namespace Prog

variable {S : Type u} {ε : Type v} {α β : Type w}

protected def pure (a : α) : Prog S ε α := fun s => (.ok a, s)

protected def bind (p : Prog S ε α) (f : α → Prog S ε β) : Prog S ε β := fun s =>
  match p s with
  | (.ok a, s) => f a s
  | (.error e, s) => (.error e, s)

instance : Monad (Prog S ε) where
  pure := Prog.pure
  bind := Prog.bind

instance : LawfulMonad (Prog S ε) := by
  refine LawfulMonad.mk' _ ?_ ?_ ?_
  · intro α p
    funext s
    change (match p s with | (.ok a, s) => (.ok a, s) | (.error e, s) => (.error e, s)) = p s
    rcases p s with ⟨_ | _, _⟩ <;> rfl
  · intro α β a f
    rfl
  · intro α β γ p f g
    funext s
    change Prog.bind (Prog.bind p f) g s = Prog.bind p (fun a => Prog.bind (f a) g) s
    simp only [Prog.bind]
    rcases p s with ⟨_ | _, _⟩ <;> rfl

/-- Run a computation that does not touch the state. -/
def lift (r : Except ε α) : Prog S ε α := fun s => (r, s)

def fail (e : ε) : Prog S ε α := fun s => (.error e, s)

def read (f : S → α) : Prog S ε α := fun s => (.ok (f s), s)

def modify (f : S → S) : Prog S ε PUnit.{w + 1} := fun s => (.ok ⟨⟩, f s)

/-- `Result::map_err` on what a program returns. -/
def mapError {ε' : Type*} (f : ε → ε') (p : Prog S ε α) : Prog S ε' α := fun s => ((p s).1.mapError f, (p s).2)

/-- `for i in first..first + n` over an accumulator, left early by `Sum.inl`. -/
def loop {γ : Type w} (body : Nat → β → Prog S ε (γ ⊕ β)) : Nat → Nat → β → Prog S ε (γ ⊕ β)
  | 0, _, b => pure (.inr b)
  | n + 1, i, b => do
    match ← body i b with
    | .inl c => pure (.inl c)
    | .inr b => loop body n (i + 1) b

/-- Run one program for each entry of a list, whatever the earlier ones returned. -/
def runs {ι : Type*} (step : ι → Prog S ε α) : List ι → S → List (Except ε α) × S
  | [], s => ([], s)
  | i :: rest, s =>
    let here := step i s
    let later := runs step rest here.2
    (here.1 :: later.1, later.2)

@[simp] theorem pure_apply (a : α) (s : S) : (pure a : Prog S ε α) s = (.ok a, s) := rfl

@[simp] theorem lift_apply (r : Except ε α) (s : S) : lift r s = (r, s) := rfl

@[simp] theorem fail_apply (e : ε) (s : S) : (fail e : Prog S ε α) s = (.error e, s) := rfl

@[simp] theorem read_apply (f : S → α) (s : S) : (read f : Prog S ε α) s = (.ok (f s), s) := rfl

@[simp] theorem modify_apply (f : S → S) (s : S) : (modify f : Prog S ε PUnit) s = (.ok ⟨⟩, f s) := rfl

theorem bind_apply (p : Prog S ε α) (f : α → Prog S ε β) (s : S) :
    (p >>= f) s = match p s with
      | (.ok a, s) => f a s
      | (.error e, s) => (.error e, s) := rfl

theorem bind_of_ok {p : Prog S ε α} {f : α → Prog S ε β} {s t : S} {a : α}
    (run : p s = (.ok a, t)) : (p >>= f) s = f a t := by
  simp only [bind_apply, run]

theorem bind_of_error {p : Prog S ε α} {f : α → Prog S ε β} {s t : S} {e : ε}
    (run : p s = (.error e, t)) : (p >>= f) s = (.error e, t) := by
  simp only [bind_apply, run]

theorem mapError_of_ok {ε' : Type*} {f : ε → ε'} {p : Prog S ε α} {s t : S} {a : α}
    (run : p s = (.ok a, t)) : (p.mapError f) s = (.ok a, t) := by
  simp only [mapError, run]
  rfl

theorem mapError_of_error {ε' : Type*} {f : ε → ε'} {p : Prog S ε α} {s t : S} {e : ε}
    (run : p s = (.error e, t)) : (p.mapError f) s = (.error (f e), t) := by
  simp only [mapError, run]
  rfl

/-- A step that only looks at the state decides whether the rest runs. -/
theorem bind_of_guard {p : Prog S ε α} {f : α → Prog S ε β} {s : S} {r : Except ε α} :
    p s = (r, s) → (p >>= f) s = match r with
      | .ok a => f a s
      | .error e => (.error e, s) := by
  intro guard
  simp only [bind_apply, guard]
  cases r <;> rfl

theorem run_of_fst {p : Prog S ε α} {s : S} {r : Except ε α} (result : (p s).1 = r) : p s = (r, (p s).2) :=
  Prod.ext result rfl

/-- Rewording a result leaves the state alone. -/
theorem snd_bind_pure (p : Prog S ε α) (f : α → β) (s : S) : ((p >>= fun a => pure (f a)) s).2 = (p s).2 := by
  rw [bind_apply]
  rcases p s with ⟨_ | _, t⟩ <;> rfl

/-- And maps the result. -/
theorem bind_pure_apply (p : Prog S ε α) (f : α → β) (s : S) :
    (p >>= fun a => pure (f a)) s = ((p s).1.map f, (p s).2) := by
  rw [bind_apply]
  rcases p s with ⟨_ | _, t⟩ <;> rfl

theorem except_bind_ok {r : Except ε α} {f : α → Except ε β} {b : β} :
    r >>= f = .ok b ↔ ∃ a, r = .ok a ∧ f a = .ok b := by
  cases r <;> simp [bind, Except.bind]

theorem except_bind_error {r : Except ε α} {f : α → Except ε β} {e : ε} :
    r >>= f = .error e ↔ r = .error e ∨ ∃ a, r = .ok a ∧ f a = .error e := by
  cases r <;> simp [bind, Except.bind]

theorem except_map_injective {f : α → β} (injective : Function.Injective f) : Function.Injective fun r : Except ε α => r.map f := by
  intro a b same
  cases a with
  | error e =>
    cases b with
    | error e' => exact congrArg Except.error (Except.error.inj same)
    | ok b => cases same
  | ok a =>
    cases b with
    | error e => cases same
    | ok b => exact congrArg Except.ok (injective (Except.ok.inj same))

/-- Whatever comes of it, the program moves the state along `R`. -/
def Moves (R : S → S → Prop) (p : Prog S ε α) : Prop :=
  ∀ s, R s (p s).2

namespace Moves

variable {R : S → S → Prop} {p : Prog S ε α}

theorem lift (stay : ∀ s, R s s) (r : Except ε α) : Moves R (lift r : Prog S ε α) :=
  stay

theorem bind (chain : ∀ {s t u}, R s t → R t u → R s u) {f : α → Prog S ε β}
    (first : Moves R p) (next : ∀ a, Moves R (f a)) : Moves R (p >>= f) := by
  intro s
  have moved := first s
  rcases run : p s with ⟨e | a, t⟩
  · rw [bind_of_error run]
    simpa only [run] using moved
  · rw [bind_of_ok run]
    rw [run] at moved
    exact chain moved (next a t)

end Moves

/-- Two outcomes with the same error, or with results related by `A`. -/
inductive Agree {α : Type w} {β : Type w'} (A : α → β → Prop) : Except ε α → Except ε β → Prop
  | ok {a b} : A a b → Agree A (.ok a) (.ok b)
  | error (e) : Agree A (.error e) (.error e)

theorem Agree.refl {A : α → α → Prop} (same : ∀ a, A a a) (r : Except ε α) : Agree A r r := by
  cases r with
  | ok a => exact .ok (same a)
  | error e => exact .error e

/-- Started in related states, the two programs agree and end in related states. -/
def Related {T : Type u'} {α : Type w} {β : Type w'} (R : S → T → Prop) (A : α → β → Prop)
    (p : Prog S ε α) (q : Prog T ε β) : Prop :=
  ∀ s t, R s t → Agree A (p s).1 (q t).1 ∧ R (p s).2 (q t).2

namespace Related

variable {T : Type u'} {R : S → T → Prop} {α₁ α₂ β₁ β₂ : Type w}
  {A : α₁ → α₂ → Prop} {B : β₁ → β₂ → Prop}

theorem pure {a : α₁} {b : α₂} (same : A a b) :
    Related R A (Pure.pure a : Prog S ε α₁) (Pure.pure b : Prog T ε α₂) :=
  fun _ _ start => ⟨.ok same, start⟩

theorem lift {a : Except ε α₁} {b : Except ε α₂} (same : Agree A a b) :
    Related R A (Prog.lift a : Prog S ε α₁) (Prog.lift b : Prog T ε α₂) :=
  fun _ _ start => ⟨same, start⟩

theorem read {f : S → α₁} {g : T → α₂} (same : ∀ s t, R s t → A (f s) (g t)) :
    Related R A (Prog.read f : Prog S ε α₁) (Prog.read g) :=
  fun s t start => ⟨.ok (same s t start), start⟩

theorem modify {f : S → S} {g : T → T} (keeps : ∀ s t, R s t → R (f s) (g t)) :
    Related R (fun _ _ => True) (Prog.modify f : Prog S ε PUnit.{w + 1}) (Prog.modify g : Prog T ε PUnit.{w + 1}) :=
  fun s t start => ⟨.ok trivial, keeps s t start⟩

theorem bind {p : Prog S ε α₁} {q : Prog T ε α₂} {f : α₁ → Prog S ε β₁} {g : α₂ → Prog T ε β₂}
    (first : Related R A p q) (next : ∀ a b, A a b → Related R B (f a) (g b)) :
    Related R B (p >>= f) (q >>= g) := by
  intro s t start
  obtain ⟨same, after⟩ := first s t start
  rw [bind_apply, bind_apply]
  generalize p s = left at same after ⊢
  generalize q t = right at same after ⊢
  obtain ⟨left, s'⟩ := left
  obtain ⟨right, t'⟩ := right
  cases same with
  | ok same => exact next _ _ same _ _ after
  | error e => exact ⟨.error e, after⟩

/-- Two loops whose bodies stay in step stay in step. -/
theorem loop {f : Nat → β₁ → Prog S ε (α₁ ⊕ β₁)} {g : Nat → β₂ → Prog T ε (α₂ ⊕ β₂)}
    (body : ∀ i a b, B a b → Related R (Sum.LiftRel A B) (f i a) (g i b)) (n i : Nat)
    {a : β₁} {b : β₂} (same : B a b) :
    Related R (Sum.LiftRel A B) (Prog.loop f n i a) (Prog.loop g n i b) := by
  induction n generalizing i a b with
  | zero => exact pure (.inr same)
  | succ n ih =>
    refine bind (body i a b same) ?_
    intro left right agree
    cases agree with
    | inl agree => exact pure (.inl agree)
    | inr agree => exact ih (i + 1) agree

theorem runs {ι κ : Type*} {f : ι → Prog S ε α₁} {g : κ → Prog T ε α₂} {P : ι → κ → Prop}
    (each : ∀ i j, P i j → Related R A (f i) (g j)) {l : List ι} {m : List κ}
    (same : List.Forall₂ P l m) {s : S} {t : T} (start : R s t) :
    List.Forall₂ (Agree A) (Prog.runs f l s).1 (Prog.runs g m t).1 ∧
      R (Prog.runs f l s).2 (Prog.runs g m t).2 := by
  induction same generalizing s t with
  | nil => exact ⟨.nil, start⟩
  | cons here _ ih =>
    obtain ⟨agree, after⟩ := each _ _ here s t start
    exact ⟨.cons agree (ih after).1, (ih after).2⟩

end Related

end Prog
