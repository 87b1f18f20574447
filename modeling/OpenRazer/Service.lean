import OpenRazer.Accounting
import OpenRazer.Answering
import OpenRazer.Library.Machine

namespace OpenRazer

/-- A call behind the lock. One that panics poisons it, and then every later one returns without a word. -/
def Registry.apply (registry : Registry) (call : Call) : Registry :=
  if registry.poisoned then registry
  else
    match registry.metrics.apply call with
    | some metrics => { registry with metrics := metrics }
    | none => { registry with poisoned := true }

/-- What `serve` listens on. -/
structure Listener where
  address : String
  loopback : Bool

/-- What happens next: another thread calls the registry, or the listener yields
a connection or an error. A connection takes its time: other threads make their
calls before its answer is made, and nothing else is accepted meanwhile. -/
inductive Happening
  | call (call : Call)
  | accepted (stream : TcpStream) (meanwhile : List Call) (elapsed : Duration)
  | failed (error : String)

/-- The thread of `serve`, and the registry it shares. A panic ends the thread. -/
structure Service where
  registry : Registry
  connections : List Connection
  log : List String
  stopped : Bool

namespace Service

/-- What is logged before the loop. -/
def greeting (listener : Listener) : List String :=
  let warning := if listener.loopback then [] else [
    "razerd: WARNING: metrics listening on " ++ listener.address ++ ", which is not loopback.",
    "razerd:          This endpoint is unauthenticated and exposes device identity",
    "razerd:          (and the serial, with --expose-serial) to anyone who can reach it."]
  warning ++ ["razerd: metrics on http://" ++ listener.address ++ "/metrics"]

def start (exposeSerial : Bool) (listener : Listener) : Service where
  registry := { metrics := .new exposeSerial, poisoned := false }
  connections := []
  log := greeting listener
  stopped := false

/-- One round of the loop of `serve`, or a call of another thread. -/
def next (s : Service) : Happening → Service
  | .call call => { s with registry := s.registry.apply call }
  | .failed error => if s.stopped then s else { s with log := s.log ++ ["razerd: accept failed: " ++ error] }
  | .accepted stream meanwhile elapsed =>
    let registry := meanwhile.foldl Registry.apply s.registry
    if s.stopped then { s with registry := registry }
    else
      let (result, connection) := handle stream registry elapsed .opened
      { s with
        registry := registry
        connections := s.connections ++ [connection]
        stopped := result = .error .panicked }

/-- `serve`: an address that cannot be listened on is its error, otherwise it
goes on for as long as the process does. -/
def serve (bound : Except String Listener) (exposeSerial : Bool) (happenings : List Happening) : Except String Service :=
  bound.map fun listener => Machine.run next (start exposeSerial listener) happenings

end Service

namespace Happening

/-- The calls that it brings. -/
def calls : Happening → List Call
  | .call c => [c]
  | .accepted _ meanwhile _ => meanwhile
  | .failed _ => []

def complaint : Happening → Option String
  | .failed error => some ("razerd: accept failed: " ++ error)
  | _ => none

end Happening

/-- The calls of a run, in order. -/
def recorded (happenings : List Happening) : List Call :=
  happenings.flatMap Happening.calls

/-- A connection, and what had been recorded when it was answered. -/
structure Visitor where
  stream : TcpStream
  calls : List Call
  elapsed : Duration

/-- The connections of a run, each with the calls up to its answer. -/
def visitors (before : List Call) : List Happening → List Visitor
  | [] => []
  | .accepted stream meanwhile elapsed :: rest =>
    ⟨stream, before ++ meanwhile, elapsed⟩ :: visitors (before ++ meanwhile) rest
  | happening :: rest => visitors (before ++ happening.calls) rest

/-- A visitor is served from the registry that its calls have left. -/
def Visitor.Answered (exposeSerial : Bool) (visitor : Visitor) (connection : Connection) : Prop :=
  ∃ metrics text, Metrics.after exposeSerial visitor.calls = some metrics ∧ metrics.render visitor.elapsed = some text ∧
    Served visitor.stream text connection

/-- A registry with an intact lock, after a history of calls. -/
def Registry.Holds (registry : Registry) (exposeSerial : Bool) (calls : List Call) : Prop :=
  registry.poisoned = false ∧ Metrics.after exposeSerial calls = some registry.metrics

theorem Registry.Holds.apply {registry : Registry} {exposeSerial : Bool} {calls : List Call}
    (holds : registry.Holds exposeSerial calls) (more : List Call) :
    (more.foldl Registry.apply registry).Holds exposeSerial (calls ++ more) := by
  induction more generalizing registry calls with
  | nil => rwa [List.append_nil]
  | cons call more ih =>
    obtain ⟨intact, after⟩ := holds
    obtain ⟨m, before, records⟩ := Records.after exposeSerial calls
    obtain rfl := Option.some.inj (after.symm.trans before)
    obtain ⟨m', applied, _⟩ := records.apply call
    have here : (registry.apply call).Holds exposeSerial (calls ++ [call]) := by
      rw [Registry.apply, if_neg (by rw [intact]; decide), applied]
      refine ⟨intact, ?_⟩
      rw [Metrics.after, List.foldlM_append]
      change Option.bind (Metrics.after exposeSerial calls) _ = _
      rw [after, Option.bind_some, List.foldlM_cons, applied]
      rfl
    have later := ih here
    rwa [List.append_assoc] at later

/-- A registry with an intact lock can be rendered, so a connection is handled without a panic. -/
theorem Registry.Holds.handled {registry : Registry} {exposeSerial : Bool} {calls : List Call}
    (holds : registry.Holds exposeSerial calls) (stream : TcpStream) (elapsed : Duration) :
    (handle stream registry elapsed .opened).1 ≠ .error .panicked ∧
      Visitor.Answered exposeSerial ⟨stream, calls, elapsed⟩ (handle stream registry elapsed .opened).2 := by
  obtain ⟨intact, after⟩ := holds
  obtain ⟨m, before, records⟩ := Records.after exposeSerial calls
  obtain rfl := Option.some.inj (after.symm.trans before)
  obtain ⟨text, written⟩ := Metrics.render_some records.slots elapsed
  have rendered : registry.render elapsed = some text := by
    rw [Registry.render, if_neg (by rw [intact]; decide), written]
  obtain ⟨calm, served⟩ := handle_spec stream rendered
  exact ⟨calm, registry.metrics, text, after, written, served⟩

namespace Service

/-- What holds after every part of a run: the lock is intact, the loop goes on,
and every connection was answered from what had been recorded before. -/
structure Sound (exposeSerial : Bool) (calls : List Call) (visited : List Visitor) (log : List String) (s : Service) :
    Prop where
  holds : s.registry.Holds exposeSerial calls
  goes : s.stopped = false
  answered : List.Forall₂ (Visitor.Answered exposeSerial) visited s.connections
  logged : s.log = log

variable {exposeSerial : Bool} {calls : List Call} {visited : List Visitor} {log : List String} {s : Service}

theorem Sound.start (exposeSerial : Bool) (listener : Listener) :
    Sound exposeSerial [] [] (greeting listener) (Service.start exposeSerial listener) :=
  ⟨⟨rfl, rfl⟩, rfl, .nil, rfl⟩

theorem Sound.next (sound : Sound exposeSerial calls visited log s) (happening : Happening) :
    Sound exposeSerial (calls ++ happening.calls) (visited ++ visitors calls [happening])
      (log ++ happening.complaint.toList) (s.next happening) := by
  obtain ⟨holds, goes, answered, logged⟩ := sound
  have held := holds.apply happening.calls
  cases happening with
  | call c =>
    simp only [visitors, List.append_nil, Happening.complaint, Option.toList_none]
    exact ⟨held, goes, answered, logged⟩
  | failed error =>
    simp only [visitors, List.append_nil, Happening.calls, Service.next, goes, Bool.false_eq_true, if_false]
    exact ⟨holds, rfl, answered, by rw [logged]; rfl⟩
  | accepted stream meanwhile elapsed =>
    obtain ⟨calm, here⟩ := held.handled stream elapsed
    simp only [visitors, Service.next, goes, Bool.false_eq_true, if_false, Happening.complaint, Option.toList_none,
      List.append_nil]
    refine ⟨held, ?_, ?_, logged⟩
    · exact decide_eq_false calm
    · exact List.rel_append answered (.cons here .nil)

theorem visitors_cons (before : List Call) (happening : Happening) (rest : List Happening) :
    visitors before (happening :: rest) = visitors before [happening] ++ visitors (before ++ happening.calls) rest := by
  cases happening with
  | call c => rfl
  | failed error => rfl
  | accepted stream meanwhile elapsed => rfl

theorem Sound.run (sound : Sound exposeSerial calls visited log s) (happenings : List Happening) :
    Sound exposeSerial (calls ++ recorded happenings) (visited ++ visitors calls happenings)
      (log ++ happenings.filterMap Happening.complaint) (Machine.run Service.next s happenings) := by
  induction happenings generalizing s calls visited log with
  | nil => simpa [recorded, visitors, Machine.run] using sound
  | cons happening rest ih =>
    have later := ih (sound.next happening)
    rw [visitors_cons, Machine.run]
    simp only [recorded, List.flatMap_cons, List.append_assoc] at later ⊢
    cases said : happening.complaint <;> simpa [said] using later

/-- Once it listens it never stops serving: whatever the peers do and the other
threads record, the lock is never poisoned, nothing recorded is lost, and every
connection is answered from exactly what had been recorded by then. -/
theorem serve_never_stops (listener : Listener) (exposeSerial : Bool) (happenings : List Happening) :
    ∃ s, serve (.ok listener) exposeSerial happenings = .ok s ∧ s.stopped = false ∧ s.registry.poisoned = false ∧
      Metrics.after exposeSerial (recorded happenings) = some s.registry.metrics ∧
      List.Forall₂ (Visitor.Answered exposeSerial) (visitors [] happenings) s.connections ∧
      s.log = greeting listener ++ happenings.filterMap Happening.complaint := by
  obtain ⟨⟨intact, after⟩, goes, answered, logged⟩ := (Sound.start exposeSerial listener).run happenings
  exact ⟨_, rfl, goes, intact, after, answered, logged⟩

end Service

end OpenRazer
