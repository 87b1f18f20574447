import OpenRazer.Library.Machine

/-! `main` of `tools/usb_replug.py` from the point where the signal handlers are
installed. What is still to be executed is a list of items, the innermost first;
an exception drops items until one of them has something to do on the way out. -/

namespace OpenRazer.Replug

/-- What a write to the port's `disable` attribute carries: `'0'` or `'1'`. -/
inductive Value
  | zero
  | one
deriving DecidableEq, Repr

inductive Exc
  | exception
  | systemExit (code : Nat)
deriving DecidableEq, Repr

/-- How far `with open(path, 'w') as f: state['disabled'] = True; f.write('1')` has come. -/
inductive Disabling
  | opening
  | opened
  | marked
  | buffered
deriving DecidableEq, Repr

/-- How far the `try` body of `reenable` has come: its `with` block, then the flag. -/
inductive Enabling
  | opening
  | opened
  | buffered
  | flushed
deriving DecidableEq, Repr

inductive Item
  /-- `atexit.register(reenable)` -/
  | register
  /-- The `try` statement, not entered yet. -/
  | tryBlock
  | print
  | disable (stage : Disabling)
  | sleep
  /-- One round of the loop that waits for the device to come back. -/
  | poll
  /-- A call of `reenable`, from its first line. -/
  | reenable
  | enable (stage : Enabling)
  /-- `except Exception` in `reenable` -/
  | exceptClause
  /-- `finally: reenable()` -/
  | finallyClause
  | raise (e : Exc)
  /-- The interpreter's exit hooks. -/
  | atexit
deriving DecidableEq, Repr

/-- `written` lists the values that reached the attribute, the latest last; the
process has exited once nothing is left to execute. -/
structure State where
  written : List Value
  disabled : Bool
  registered : Bool
  raising : Option Exc
  stack : List Item
deriving DecidableEq, Repr

inductive Signal
  | int
  | term
  | hup
deriving DecidableEq, Repr

def Signal.number : Signal → Nat
  | int => 2
  | term => 15
  | hup => 1

/-- What happens next: the step at hand works, raises before or after taking
effect, ends the waiting loop early, or a signal is delivered in front of it. -/
inductive Choice
  | proceed
  | fail
  | failLate
  | back
  | signal (sig : Signal)
deriving DecidableEq, Repr

/-- From "waiting for re-enumeration" to the end of the process. -/
def waiting : List Item :=
  .print :: (List.replicate 25 .poll ++ [.print, .raise (.systemExit 1), .atexit])

/-- What follows the `with` block. -/
def afterDisable : List Item :=
  .sleep :: .finallyClause :: waiting

def main : List Item :=
  .register :: .tryBlock :: waiting

def start : State where
  written := []
  disabled := false
  registered := false
  raising := none
  stack := main

/-- Closing a file with a `'1'` in its buffer. -/
def State.flushOne (s : State) (c : Choice) (rest : List Item) : State :=
  match c with
  | .fail => { s with raising := some .exception, stack := rest }
  | .failLate => { s with written := s.written ++ [.one], raising := some .exception, stack := rest }
  | _ => { s with written := s.written ++ [.one], stack := rest }

/-- The hooks run whatever ended the program. -/
def State.runHooks (s : State) (rest : List Item) : State :=
  { s with raising := none, stack := if s.registered then .reenable :: rest else rest }

/-- One step of the program proper. Writes of `'0'` succeed. -/
def State.execute (s : State) (c : Choice) (item : Item) (rest : List Item) : State :=
  let failed : State := { s with raising := some .exception, stack := rest }
  let fails := c = .fail ∨ c = .failLate
  match item with
  | .register => { s with registered := true, stack := rest }
  | .tryBlock => { s with stack := .print :: .disable .opening :: .sleep :: .finallyClause :: rest }
  | .print | .sleep => if fails then failed else { s with stack := rest }
  | .poll =>
    if fails then failed
    else if c = .back then { s with raising := some (.systemExit 0), stack := rest }
    else { s with stack := rest }
  | .disable .opening => if fails then failed else { s with stack := .disable .opened :: rest }
  | .disable .opened => { s with disabled := true, stack := .disable .marked :: rest }
  | .disable .marked =>
    match c with
    | .fail => { s with raising := some .exception }
    | .failLate => { s with raising := some .exception, stack := .disable .buffered :: rest }
    | _ => { s with stack := .disable .buffered :: rest }
  | .disable .buffered => s.flushOne c rest
  | .reenable =>
    if s.disabled then { s with stack := .enable .opening :: .exceptClause :: rest } else { s with stack := rest }
  | .enable .opening => { s with stack := .enable .opened :: rest }
  | .enable .opened => { s with stack := .enable .buffered :: rest }
  | .enable .buffered => { s with written := s.written ++ [.zero], stack := .enable .flushed :: rest }
  | .enable .flushed => { s with disabled := false, stack := .print :: rest }
  | .exceptClause => { s with stack := rest }
  | .finallyClause => { s with stack := .reenable :: rest }
  | .raise e => { s with raising := some e, stack := rest }
  | .atexit => s.runHooks rest

/-- One step of an exception on its way out: files are closed, `finally` and
`except` get their turn, everything else is dropped. -/
def State.unwind (s : State) (c : Choice) (e : Exc) (item : Item) (rest : List Item) : State :=
  match item with
  | .disable .buffered => s.flushOne c rest
  | .enable .buffered => { s with written := s.written ++ [.zero], stack := rest }
  | .finallyClause => { s with raising := none, stack := .reenable :: .raise e :: rest }
  | .exceptClause =>
    match e with
    | .exception => { s with raising := none, stack := .print :: .print :: .print :: rest }
    | .systemExit _ => { s with stack := rest }
  | .atexit => s.runHooks rest
  | _ => { s with stack := rest }

/-- `bail`: re-enable the port, then `sys.exit(128 + signum)`. It never returns
to what it interrupted, so an exception under way is replaced by its own. -/
def State.interrupt (s : State) (sig : Signal) : State :=
  { s with raising := none, stack := .reenable :: .raise (.systemExit (128 + sig.number)) :: s.stack }

def next (s : State) (c : Choice) : State :=
  match s.stack with
  | [] => s
  | item :: rest =>
    match c with
    | .signal sig => s.interrupt sig
    | c =>
      match s.raising with
      | none => s.execute c item rest
      | some e => s.unwind c e item rest

/-- Nothing was written, or the last value written was `'0'`. -/
def State.PortEnabled (s : State) : Prop :=
  s.written = [] ∨ s.written.getLast? = some .zero

/-- A `'1'` waits in the buffer of a file that is not closed yet. -/
def State.Pending (s : State) : Prop :=
  .disable .buffered ∈ s.stack

/-- A signal may be delivered at any point but this one: with a `'1'` in the buffer. -/
def Spares (s : State) : Choice → Prop
  | .signal _ => ¬s.Pending
  | _ => True

instance (s : State) : Decidable s.PortEnabled :=
  inferInstanceAs (Decidable (_ ∨ _))

instance (s : State) (c : Choice) : Decidable (Spares s c) :=
  match c with
  | .signal _ => inferInstanceAs (Decidable ¬(_ ∈ s.stack))
  | .proceed | .fail | .failLate | .back => .isTrue trivial

end OpenRazer.Replug
