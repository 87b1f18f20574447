import Mathlib.Data.List.Chain
import OpenRazer.Replug

namespace OpenRazer.Replug

/-- Can execution still come to the `with` block that disables the port? The
first argument tells whether an exception is on its way out. -/
def armed : Bool → List Item → Bool
  | _, [] => false
  | false, .tryBlock :: _ => true
  | false, .disable _ :: _ => true
  | false, .raise _ :: rest => armed true rest
  | true, .exceptClause :: rest => armed false rest || armed true rest
  | true, .atexit :: rest => armed false rest
  | false, _ :: rest => armed false rest || armed true rest
  | true, _ :: rest => armed true rest

theorem armed_true_of_false {stack : List Item} (unarmed : armed false stack = false) : armed true stack = false := by
  cases stack with
  | nil => rfl
  | cons item rest => cases item <;> simp_all [armed]

/-- Only `raise` leaves a handler, and a half-done `enable` below a handler is never resumed. -/
def Tidy (stack : List Item) : Prop :=
  stack.IsChain fun i j => (∃ stage, j = .enable stage) → ∃ e, i = .raise e

theorem tidy_cons {item : Item} {rest : List Item} :
    Tidy (item :: rest) ↔ (∀ stage, rest.head? = some (.enable stage) → ∃ e, item = .raise e) ∧ Tidy rest := by
  unfold Tidy
  rw [List.isChain_cons]
  constructor
  · rintro ⟨next, tidy⟩
    exact ⟨fun stage head => next _ head ⟨stage, rfl⟩, tidy⟩
  · rintro ⟨next, tidy⟩
    refine ⟨?_, tidy⟩
    rintro _ head ⟨stage, rfl⟩
    exact next stage head

theorem quiet_cons {item : Item} {rest : List Item} (other : item ≠ .disable .buffered)
    (quiet : .disable .buffered ∉ rest) : .disable .buffered ∉ item :: rest :=
  List.not_mem_cons_of_ne_of_not_mem other.symm quiet

/-- A call of `reenable` is under way. -/
def Item.Enabling : Item → Prop
  | .reenable | .enable _ => True
  | _ => False

/-- The with block of `main` is behind, or will never be reached: from here on
nothing but `reenable` writes to the attribute. -/
structure Settled (s : State) : Prop where
  flushed : ¬s.Pending
  unarmed : armed s.raising.isSome s.stack = false
  tidy : Tidy s.stack
  covered : s.disabled = true → s.registered = true ∧ (.finallyClause ∈ s.stack ∨ .atexit ∈ s.stack ∨
    s.raising = none ∧ ∃ item rest, s.stack = item :: rest ∧ item.Enabling)
  restored : s.disabled = false → s.written.getLast? ≠ some .one
  zero : s.raising = none → ∀ rest, s.stack = .enable .flushed :: rest → s.written.getLast? = some .zero

namespace Settled

variable {s : State} {item : Item} {rest : List Item}

theorem flushed_rest (settled : Settled s) (here : s.stack = item :: rest) : .disable .buffered ∉ rest := by
  intro pending
  apply settled.flushed
  unfold State.Pending
  rw [here]
  exact List.mem_cons_of_mem _ pending

theorem tidy_rest (settled : Settled s) (here : s.stack = item :: rest) :
    (∀ stage, rest.head? = some (.enable stage) → ∃ e, item = .raise e) ∧ Tidy rest := by
  have tidy := settled.tidy
  rw [here] at tidy
  exact tidy_cons.mp tidy

/-- Leaving an item behind keeps the invariant, unless the item is one that
still has the flag to clear. -/
theorem tail (settled : Settled s) (here : s.stack = item :: rest) (raising : Option Exc)
    (unarmed : armed raising.isSome rest = false) (marker : item ≠ .finallyClause ∧ item ≠ .atexit)
    (idle : s.disabled = true → s.raising = none → ¬item.Enabling) (stays : raising = none → ∀ e, item ≠ .raise e) :
    Settled { s with raising := raising, stack := rest } where
  flushed := settled.flushed_rest here
  unarmed := unarmed
  tidy := (settled.tidy_rest here).2
  covered disabled := by
    obtain ⟨registered, cover⟩ := settled.covered disabled
    rw [here] at cover
    refine ⟨registered, ?_⟩
    rcases cover with clause | hooks | ⟨normal, head, below, same, enabling⟩
    · rcases List.mem_cons.mp clause with same | later
      · exact absurd same.symm marker.1
      · exact Or.inl later
    · rcases List.mem_cons.mp hooks with same | later
      · exact absurd same.symm marker.2
      · exact Or.inr (Or.inl later)
    · obtain ⟨rfl, rfl⟩ := List.cons_eq_cons.mp same
      exact absurd enabling (idle disabled normal)
  restored := settled.restored
  zero normal below same := by
    obtain ⟨e, leaves⟩ := (settled.tidy_rest here).1 .flushed (by
      change rest = _ at same
      rw [same]
      rfl)
    exact absurd leaves (stays normal e)

/-- A handler on top of anything that is not pending ends in an exception, after the port is re-enabled. -/
theorem of_interrupt (sig : Signal) (flushed : ¬s.Pending) (unarmed : armed true s.stack = false) (tidy : Tidy s.stack)
    (registered : s.disabled = true → s.registered = true)
    (restored : s.disabled = false → s.written.getLast? ≠ some .one) : Settled (s.interrupt sig) where
  flushed := quiet_cons (by simp) (quiet_cons (by simp) flushed)
  unarmed := by simp only [State.interrupt, Option.isSome_none, armed, unarmed, Bool.or_self]
  tidy := tidy_cons.mpr ⟨fun stage head => (by cases head), tidy_cons.mpr ⟨fun _ _ => ⟨_, rfl⟩, tidy⟩⟩
  covered set := ⟨registered set, Or.inr (Or.inr ⟨rfl, _, _, rfl, trivial⟩)⟩
  restored := restored
  zero _ below same := by cases same

theorem interrupt (settled : Settled s) (sig : Signal) : Settled (s.interrupt sig) := by
  have below : armed true s.stack = false := by
    have unarmed := settled.unarmed
    cases raising : s.raising with
    | none =>
      rw [raising] at unarmed
      exact armed_true_of_false unarmed
    | some e =>
      rw [raising] at unarmed
      exact unarmed
  exact of_interrupt sig settled.flushed below settled.tidy (fun set => (settled.covered set).1) settled.restored

/-- The next statement of `reenable`, in place of the one just executed. -/
theorem advance (settled : Settled s) (here : s.stack = item :: rest) (normal : s.raising = none)
    (stays : ∀ e, item ≠ .raise e) (unarmed : armed false rest = false) (stage : Enabling) (written : List Value)
    (disabled : s.disabled = true → s.registered = true)
    (restored : s.disabled = false → written.getLast? ≠ some .one)
    (zero : stage = .flushed → written.getLast? = some .zero) :
    Settled { s with written := written, stack := .enable stage :: rest } where
  flushed := quiet_cons (by simp) (settled.flushed_rest here)
  unarmed := by
    change armed s.raising.isSome _ = false
    simp only [normal, Option.isSome_none, armed, unarmed, armed_true_of_false unarmed, Bool.or_self]
  tidy := by
    obtain ⟨next, tidy⟩ := settled.tidy_rest here
    refine tidy_cons.mpr ⟨fun stage head => ?_, tidy⟩
    obtain ⟨e, leaves⟩ := next stage head
    exact absurd leaves (stays e)
  covered set := ⟨disabled set, Or.inr (Or.inr ⟨normal, _, _, rfl, trivial⟩)⟩
  restored := restored
  zero _ below same := by
    obtain ⟨head, _⟩ := List.cons_eq_cons.mp same
    exact zero (Item.enable.inj head)

/-- `reenable` is called, with `below` to follow. -/
theorem call (settled : Settled s) {below : List Item} (flushed : .disable .buffered ∉ below)
    (unarmed : armed false below = false) (tidy : Tidy below)
    (fresh : ∀ stage, below.head? ≠ some (.enable stage)) :
    Settled { s with raising := none, stack := .reenable :: below } where
  flushed := quiet_cons (by simp) flushed
  unarmed := by
    simp only [Option.isSome_none, armed, unarmed, armed_true_of_false unarmed, Bool.or_self]
  tidy := tidy_cons.mpr ⟨fun stage head => absurd head (fresh stage), tidy⟩
  covered set := ⟨(settled.covered set).1, Or.inr (Or.inr ⟨rfl, _, _, rfl, trivial⟩)⟩
  restored := settled.restored
  zero _ below same := by cases same

theorem fresh_rest (settled : Settled s) (here : s.stack = item :: rest) (stays : ∀ e, item ≠ .raise e) :
    ∀ stage, rest.head? ≠ some (.enable stage) := by
  intro stage head
  obtain ⟨e, leaves⟩ := (settled.tidy_rest here).1 stage head
  exact stays e leaves

/-- The exit hooks call `reenable` if they were registered, and then the flag does not matter. -/
theorem hooks (settled : Settled s) (here : s.stack = .atexit :: rest) (unarmed : armed false rest = false) :
    Settled (s.runHooks rest) := by
  have fresh := settled.fresh_rest here (by simp)
  cases registered : s.registered with
  | true =>
    rw [State.runHooks, if_pos registered]
    exact settled.call (settled.flushed_rest here) unarmed (settled.tidy_rest here).2 fresh
  | false =>
    rw [State.runHooks, if_neg (by simp [registered])]
    have unset : s.disabled ≠ true := fun set => by
      have hooked := (settled.covered set).1
      rw [registered] at hooked
      cases hooked
    refine ⟨settled.flushed_rest here, unarmed, (settled.tidy_rest here).2, fun set => absurd set unset,
      settled.restored, fun _ below same => ?_⟩
    change rest = _ at same
    exact absurd (by rw [same]; rfl) (fresh .flushed)

/-- A plain statement that works. -/
theorem goesOn (settled : Settled s) (here : s.stack = item :: rest) (normal : s.raising = none)
    (below : armed false rest = false) (marker : item ≠ .finallyClause ∧ item ≠ .atexit)
    (idle : s.disabled = true → ¬item.Enabling) (stays : ∀ e, item ≠ .raise e) :
    Settled { s with stack := rest } :=
  settled.tail here s.raising (by rw [normal]; exact below) marker (fun set _ => idle set) fun _ => stays

theorem execute (settled : Settled s) (here : s.stack = item :: rest) (normal : s.raising = none) (c : Choice) :
    Settled (s.execute c item rest) := by
  have unarmed := settled.unarmed
  rw [normal, here] at unarmed
  have registered (set : s.disabled = true) := (settled.covered set).1
  have leaves (e : Exc) (below : armed true rest = false) (marker : item ≠ .finallyClause ∧ item ≠ .atexit)
      (plain : ¬item.Enabling) : Settled { s with raising := some e, stack := rest } :=
    settled.tail here (some e) below marker (fun _ _ => plain) (by simp)
  cases item with
  | tryBlock => cases unarmed
  | disable stage => cases unarmed
  | register =>
    obtain ⟨below, _⟩ := Bool.or_eq_false_iff.mp unarmed
    have moved := settled.goesOn here normal below (by simp) (by simp [Item.Enabling]) (by simp)
    refine ⟨moved.flushed, moved.unarmed, moved.tidy, fun set => ⟨rfl, (moved.covered set).2⟩, moved.restored, moved.zero⟩
  | print | sleep =>
    obtain ⟨below, away⟩ := Bool.or_eq_false_iff.mp unarmed
    unfold State.execute
    simp only
    split
    · exact leaves .exception away (by simp) (by simp [Item.Enabling])
    · exact settled.goesOn here normal below (by simp) (by simp [Item.Enabling]) (by simp)
  | poll =>
    obtain ⟨below, away⟩ := Bool.or_eq_false_iff.mp unarmed
    unfold State.execute
    simp only
    split
    · exact leaves .exception away (by simp) (by simp [Item.Enabling])
    · split
      · exact leaves (.systemExit 0) away (by simp) (by simp [Item.Enabling])
      · exact settled.goesOn here normal below (by simp) (by simp [Item.Enabling]) (by simp)
  | reenable =>
    obtain ⟨below, away⟩ := Bool.or_eq_false_iff.mp unarmed
    unfold State.execute
    simp only
    split
    · have started : Settled { s with stack := .enable .opening :: .exceptClause :: rest } := by
        refine ⟨quiet_cons (by simp) (quiet_cons (by simp) (settled.flushed_rest here)), ?_, ?_,
          fun set => ⟨registered set, Or.inr (Or.inr ⟨normal, _, _, rfl, trivial⟩)⟩, settled.restored,
          fun _ below same => by cases same⟩
        · change armed s.raising.isSome _ = false
          simp only [normal, Option.isSome_none, armed, below, away, Bool.or_self]
        · refine tidy_cons.mpr ⟨fun stage head => (by cases head), tidy_cons.mpr ⟨fun stage head => ?_, ?_⟩⟩
          · exact absurd head (settled.fresh_rest here (by simp) stage)
          · exact (settled.tidy_rest here).2
      exact started
    · rename_i unset
      exact settled.goesOn here normal below (by simp) (fun set => absurd set unset) (by simp)
  | enable stage =>
    obtain ⟨below, away⟩ := Bool.or_eq_false_iff.mp unarmed
    cases stage with
    | opening =>
      exact settled.advance here normal (by simp) below .opened s.written registered settled.restored (by simp)
    | opened =>
      exact settled.advance here normal (by simp) below .buffered s.written registered settled.restored (by simp)
    | buffered =>
      exact settled.advance here normal (by simp) below .flushed _ registered (by simp) (by simp)
    | flushed =>
      have last := settled.zero normal rest here
      refine ⟨quiet_cons (by simp) (settled.flushed_rest here), ?_, ?_, fun set => (by cases set), fun _ => ?_,
        fun _ _ same => (by cases same)⟩
      · change armed s.raising.isSome (.print :: rest) = false
        simp only [normal, Option.isSome_none, armed, below, away, Bool.or_self]
      · exact tidy_cons.mpr ⟨fun stage head => absurd head (settled.fresh_rest here (by simp) stage),
          (settled.tidy_rest here).2⟩
      · change s.written.getLast? ≠ some .one
        rw [last]
        simp
  | exceptClause =>
    obtain ⟨below, away⟩ := Bool.or_eq_false_iff.mp unarmed
    exact settled.goesOn here normal below (by simp) (by simp [Item.Enabling]) (by simp)
  | finallyClause =>
    obtain ⟨below, away⟩ := Bool.or_eq_false_iff.mp unarmed
    have called := settled.call (settled.flushed_rest here) below (settled.tidy_rest here).2
      (settled.fresh_rest here (by simp))
    rw [← normal] at called
    exact called
  | raise e => exact leaves e unarmed (by simp) (by simp [Item.Enabling])
  | atexit =>
    obtain ⟨below, _⟩ := Bool.or_eq_false_iff.mp unarmed
    exact settled.hooks here below

/-- Whatever an exception passes on its way out, no flag is forgotten. -/
theorem unwind (settled : Settled s) (here : s.stack = item :: rest) {e : Exc} (raised : s.raising = some e) (c : Choice) :
    Settled (s.unwind c e item rest) := by
  have unarmed := settled.unarmed
  rw [raised, here] at unarmed
  have dropped (below : armed true rest = false) (marker : item ≠ .finallyClause ∧ item ≠ .atexit) :
      Settled { s with stack := rest } :=
    settled.tail here s.raising (by rw [raised]; exact below) marker (fun _ normal => by rw [raised] at normal; cases normal)
      (fun normal => by rw [raised] at normal; cases normal)
  cases item with
  | register | tryBlock | print | sleep | poll | reenable | raise _ => exact dropped unarmed (by simp)
  | disable stage =>
    cases stage with
    | buffered =>
      refine absurd ?_ settled.flushed
      unfold State.Pending
      rw [here]
      exact List.mem_cons_self ..
    | opening | opened | marked => exact dropped unarmed (by simp)
  | enable stage =>
    cases stage with
    | buffered =>
      have left := dropped unarmed (by simp)
      refine ⟨left.flushed, left.unarmed, left.tidy, left.covered, fun _ => ?_, fun normal => ?_⟩
      · change (s.written ++ [Value.zero]).getLast? ≠ some .one
        simp
      · change s.raising = none at normal
        rw [raised] at normal
        cases normal
    | opening | opened | flushed => exact dropped unarmed (by simp)
  | exceptClause =>
    obtain ⟨below, away⟩ := Bool.or_eq_false_iff.mp unarmed
    cases e with
    | systemExit code => exact dropped away (by simp)
    | exception =>
      -- The clause only prints, and what covers the flag is further down.
      have left := dropped away (by simp)
      have fresh := settled.fresh_rest here (by simp)
      refine ⟨fun pending => ?_, ?_, ?_, fun set => ⟨(left.covered set).1, ?_⟩, settled.restored,
        fun _ below same => (by cases same)⟩
      · simp only [State.unwind, State.Pending, List.mem_cons, reduceCtorEq, false_or] at pending
        exact left.flushed pending
      · simp only [State.unwind, Option.isSome_none, armed, below, away, Bool.or_self]
      · refine tidy_cons.mpr ⟨fun stage head => (by cases head), tidy_cons.mpr ⟨fun stage head => (by cases head), ?_⟩⟩
        exact tidy_cons.mpr ⟨fun stage head => absurd head (fresh stage), left.tidy⟩
      · simp only [State.unwind, List.mem_cons, reduceCtorEq, false_or]
        rcases (left.covered set).2 with clause | hooks | ⟨normal, _⟩
        · exact Or.inl clause
        · exact Or.inr (Or.inl hooks)
        · change s.raising = none at normal
          rw [raised] at normal
          cases normal
  | finallyClause =>
    refine settled.call (quiet_cons (by simp) (settled.flushed_rest here)) unarmed ?_ (by simp)
    exact tidy_cons.mpr ⟨fun _ _ => ⟨e, rfl⟩, (settled.tidy_rest here).2⟩
  | atexit => exact settled.hooks here unarmed

theorem step (settled : Settled s) (c : Choice) : Settled (next s c) := by
  unfold next
  cases here : s.stack with
  | nil => exact settled
  | cons item rest =>
    cases c with
    | signal sig => exact settled.interrupt sig
    | _ =>
      cases raising : s.raising with
      | none => exact settled.execute here raising _
      | some e => exact settled.unwind here raising _

end Settled

/-- Nothing has been opened for writing `'1'`, or nothing has come of it yet. -/
inductive Before : State → Prop
  | register : Before start
  | tryBlock : Before ⟨[], false, true, none, .tryBlock :: waiting⟩
  | print : Before ⟨[], false, true, none, .print :: .disable .opening :: afterDisable⟩
  | opening : Before ⟨[], false, true, none, .disable .opening :: afterDisable⟩
  | opened : Before ⟨[], false, true, none, .disable .opened :: afterDisable⟩
  /-- The flag is set, and `f.write` may have failed already. -/
  | marked (raising : Option Exc) : Before ⟨[], true, true, raising, .disable .marked :: afterDisable⟩
  | buffered (raising : Option Exc) : Before ⟨[], true, true, raising, .disable .buffered :: afterDisable⟩

theorem tidy_of_idle {stack : List Item} (idle : ∀ stage, .enable stage ∉ stack) : Tidy stack := by
  induction stack with
  | nil => exact .nil
  | cons item rest ih =>
    refine tidy_cons.mpr ⟨fun stage head => ?_, ih fun stage member => idle stage (List.mem_cons_of_mem _ member)⟩
    exact absurd (List.mem_cons_of_mem _ (List.mem_of_head? head)) (idle stage)

/-- An exception in front of the `with` block, or in its `open`. -/
theorem settled_of_raise {stack : List Item} (rest : stack = .disable .opening :: afterDisable ∨ stack = afterDisable) :
    Settled ⟨[], false, true, some .exception, stack⟩ := by
  have idle (stage : Enabling) : .enable stage ∉ stack := by
    rcases rest with rfl | rfl <;> cases stage <;> simp [afterDisable, waiting]
  have flushed : .disable .buffered ∉ stack := by
    rcases rest with rfl | rfl <;> simp [afterDisable, waiting]
  have unarmed : armed true stack = false := by rcases rest with rfl | rfl <;> rfl
  exact ⟨flushed, unarmed, tidy_of_idle idle, fun set => (by cases set), fun _ => (by simp), fun normal => (by cases normal)⟩

/-- Once the file is closed the `finally` clause is ahead, whatever was written. -/
theorem settled_after (written : List Value) (raising : Option Exc) :
    Settled ⟨written, true, true, raising, afterDisable⟩ := by
  have idle (stage : Enabling) : .enable stage ∉ afterDisable := by cases stage <;> simp [afterDisable, waiting]
  have flushed : .disable .buffered ∉ afterDisable := by simp [afterDisable, waiting]
  have unarmed (b : Bool) : armed b afterDisable = false := by cases b <;> rfl
  exact ⟨flushed, unarmed _, tidy_of_idle idle, fun _ => ⟨rfl, Or.inl (by simp [afterDisable])⟩,
    fun unset => (by cases unset), fun _ below same => (by cases same)⟩

/-- With nothing buffered yet, a handler finds nothing of `reenable` below it. -/
theorem Before.interrupt {s : State} (before : Before s) (flushed : ¬s.Pending) (sig : Signal) : Settled (s.interrupt sig) := by
  have unarmed : armed true s.stack = false := by cases before <;> rfl
  have idle (stage : Enabling) : .enable stage ∉ s.stack := by
    cases before <;> cases stage <;> simp [start, main, afterDisable, waiting]
  have registered : s.disabled = true → s.registered = true := by
    intro set
    cases before with
    | register => cases set
    | _ => rfl
  have nothing : s.written = [] := by cases before <;> rfl
  exact .of_interrupt sig flushed unarmed (tidy_of_idle idle) registered fun _ => by simp [nothing]

theorem Before.step {s : State} (before : Before s) {c : Choice} (spares : Spares s c) :
    Before (next s c) ∨ Settled (next s c) := by
  cases c with
  | signal sig =>
    have handled := before.interrupt spares sig
    cases before <;> exact Or.inr handled
  | proceed | back =>
    cases before with
    | register => exact Or.inl .tryBlock
    | tryBlock => exact Or.inl .print
    | print => exact Or.inl .opening
    | opening => exact Or.inl .opened
    | opened => exact Or.inl (.marked none)
    | marked raising =>
      cases raising with
      | none => exact Or.inl (.buffered none)
      | some e => exact Or.inr (settled_after [] (some e))
    | buffered raising => cases raising <;> exact Or.inr (settled_after [.one] _)
  | fail =>
    cases before with
    | register => exact Or.inl .tryBlock
    | tryBlock => exact Or.inl .print
    | print => exact Or.inr (settled_of_raise (Or.inl rfl))
    | opening => exact Or.inr (settled_of_raise (Or.inr rfl))
    | opened => exact Or.inl (.marked none)
    | marked raising =>
      cases raising with
      | none => exact Or.inl (.marked (some .exception))
      | some e => exact Or.inr (settled_after [] (some e))
    | buffered raising => cases raising <;> exact Or.inr (settled_after [] (some .exception))
  | failLate =>
    cases before with
    | register => exact Or.inl .tryBlock
    | tryBlock => exact Or.inl .print
    | print => exact Or.inr (settled_of_raise (Or.inl rfl))
    | opening => exact Or.inr (settled_of_raise (Or.inr rfl))
    | opened => exact Or.inl (.marked none)
    | marked raising =>
      cases raising with
      | none => exact Or.inl (.buffered (some .exception))
      | some e => exact Or.inr (settled_after [] (some e))
    | buffered raising => cases raising <;> exact Or.inr (settled_after [.one] (some .exception))

/-- Where every run without a signal in the one window ends up. -/
theorem reached_of_spared {choices : List Choice} (spared : Machine.Meets next Spares start choices) :
    Before (Machine.run next start choices) ∨ Settled (Machine.run next start choices) := by
  have step (s : State) (c : Choice) (here : Before s ∨ Settled s) (spares : Spares s c) :
      Before (next s c) ∨ Settled (next s c) := by
    rcases here with before | settled
    · exact before.step spares
    · exact Or.inr (settled.step c)
  exact Machine.run_invariant step (Or.inl Before.register) spared

/-- Unless a signal arrives while the `'1'` is buffered, a run that exits leaves the port enabled. -/
theorem port_enabled_of_spared {choices : List Choice} (spared : Machine.Meets next Spares start choices)
    (exited : (Machine.run next start choices).stack = []) : (Machine.run next start choices).PortEnabled := by
  have reached := reached_of_spared spared
  generalize Machine.run next start choices = s at exited reached ⊢
  rcases reached with before | settled
  · cases before <;> cases exited
  · have unset : s.disabled = false := by
      by_contra set
      have cover := (settled.covered (by simpa using set)).2
      rw [exited] at cover
      simp at cover
    have last := settled.restored unset
    unfold State.PortEnabled
    cases latest : s.written.getLast? with
    | none => exact Or.inl (List.getLast?_eq_none_iff.mp latest)
    | some value =>
      cases value with
      | zero => exact Or.inr rfl
      | one => exact absurd latest last

/-- A session that drops while the port is down. -/
theorem port_enabled_of_spared_asleep :
    (Machine.run next start (List.replicate 7 .proceed ++ .signal .hup :: List.replicate 60 .proceed)).PortEnabled :=
  port_enabled_of_spared (by decide) (by decide)

/-- A session that drops right after `f.write('1')`: the handler writes `'0'`
first, and closing the file on the way out writes the `'1'` after it. -/
theorem hangup_before_flush :
    (Machine.run next start (List.replicate 6 .proceed ++ .signal .hup :: List.replicate 60 .proceed)).stack = [] ∧
      ¬(Machine.run next start
        (List.replicate 6 .proceed ++ .signal .hup :: List.replicate 60 .proceed)).PortEnabled := by
  decide

end OpenRazer.Replug
