import OpenRazer.Stamp

universe u

namespace OpenRazer

/-- Byte 1 of the report that a call read, if the read was complete. -/
def Event.echo? : Event → Option UInt8
  | .get (.ok got) buf => if 91 ≤ got then some buf[2] else none
  | _ => none

/-- Byte 1 of every complete response, in order. -/
def echoes (trace : List Event) : List UInt8 :=
  trace.filterMap Event.echo?

/-- The call read a complete response, and it is not one to this request. -/
def Event.Rejected (request : RazerReport) : Event → Prop
  | .get (.ok got) buf => 91 ≤ got ∧ ∃ e, checkResponse request (RazerReport.fromBytes buf.report) = .error e
  | _ => False

theorem echoes_append (first second : List Event) : echoes (first ++ second) = echoes first ++ echoes second :=
  List.filterMap_append

namespace Attempt

/-- The transaction id of the complete response. -/
def echo (a : Attempt) : Option UInt8 :=
  a.response.map (·.transactionId)

theorem echoes_events (buf : Frame) (wait : Duration) (a : Attempt) : echoes (a.events buf wait) = a.echo.toList := by
  cases a with
  | setFailed _ | getFailed _ _ => rfl
  | short got reply cut =>
    have incomplete : ¬91 ≤ got := by omega
    simp [events, echoes, Event.echo?, echo, response, incomplete]
  | answered got reply complete =>
    have second : reply.report[1] = reply[2] := by
      rw [Frame.report, Vector.getElem_ofFn]
      rfl
    have id : (answered got reply complete).echo = some reply[2] := congrArg some second
    simp only [events, echoes, List.filterMap_cons, List.filterMap_nil, Event.echo?, if_pos complete, id, Option.toList_some]

theorem rejected_events {buf : Frame} {wait : Duration} {a : Attempt} {request : RazerReport}
    (rejected : (a.rejection request).isSome) : ∃ event ∈ a.events buf wait, event.Rejected request := by
  obtain ⟨e, complaint⟩ := Option.isSome_iff_exists.mp rejected
  obtain ⟨r, response, judged⟩ := rejection_eq_some.mp complaint
  cases a with
  | answered got reply complete =>
    obtain rfl := Option.some.inj response
    exact ⟨.get (.ok got) reply, by simp [events], complete, e, judged⟩
  | _ => cases response

end Attempt

theorem echoes_schedule (buf : Frame) (wait : Duration) (attempts : List Attempt) :
    echoes (schedule buf wait attempts) = attempts.filterMap Attempt.echo := by
  induction attempts with
  | nil => rfl
  | cons a rest ih =>
    by_cases more : rest = []
    · subst rest
      rw [schedule_single, Attempt.echoes_events]
      cases echo : a.echo <;> simp [echo]
    · rw [schedule_cons _ _ _ more, echoes_append, Attempt.echoes_events]
      have pause : echoes (.sleep RETRY_DELAY :: schedule buf wait rest) = echoes (schedule buf wait rest) := rfl
      rw [pause, ih]
      cases echo : a.echo <;> simp [echo]

theorem mem_schedule {buf : Frame} {wait : Duration} {attempts : List Attempt} {a : Attempt} {event : Event}
    (among : a ∈ attempts) (member : event ∈ a.events buf wait) : event ∈ schedule buf wait attempts := by
  induction attempts with
  | nil => cases among
  | cons first rest ih =>
    by_cases more : rest = []
    · subst rest
      rw [schedule_single, ← List.mem_singleton.mp among]
      exact member
    · rw [schedule_cons _ _ _ more]
      rcases List.mem_cons.mp among with rfl | later
      · exact List.mem_append_left _ member
      · exact List.mem_append_right _ (List.mem_cons_of_mem _ (ih later))

/-- What is recorded is the last of the responses. -/
theorem echoed_eq (before : Option UInt8) (attempts : List Attempt) :
    echoed before attempts = (attempts.filterMap Attempt.echo).getLast?.or before := by
  induction attempts generalizing before with
  | nil => rfl
  | cons a rest ih =>
    have step : echoed before (a :: rest) = echoed (a.echo.or before) rest := rfl
    rw [step, ih, List.filterMap_cons]
    cases a.echo with
    | none => rfl
    | some id =>
      rw [List.getLast?_cons]
      cases (rest.filterMap Attempt.echo).getLast? <;> rfl

namespace Op

variable {σ : Type u} (H : Host σ)

/-- Does the operation go through `transact`? -/
def transacts : Op → Bool
  | .send _ | .transactRaw _ => false
  | _ => true

/-- The calls that an operation makes on the transport and the clock. -/
def calls (op : Op) (s : Session σ) : List Event :=
  (op.run H s).2.trace.drop s.trace.length

/-- A run as its operations, each with its calls. -/
def history : List Op → Session σ → List (Op × List Event)
  | [], _ => []
  | op :: rest, s => (op, op.calls H s) :: history rest (op.run H s).2

variable {H}

theorem calls_of_trace {op : Op} {s : Session σ} {events : List Event} (trace : (op.run H s).2.trace = s.trace ++ events) :
    op.calls H s = events := by
  rw [calls, trace, List.drop_left]

theorem trace_run (op : Op) (s : Session σ) : (op.run H s).2.trace = s.trace ++ op.calls H s := by
  obtain ⟨_, _, events, trace, _⟩ := run_issues (H := H) op s
  rw [calls_of_trace trace, trace]

theorem trace_runs (ops : List Op) (s : Session σ) :
    (Prog.runs (run H) ops s).2.trace = s.trace ++ ((history H ops s).map Prod.snd).flatten := by
  induction ops generalizing s with
  | nil => exact (List.append_nil _).symm
  | cons op rest ih =>
    have later := ih (op.run H s).2
    rw [trace_run, List.append_assoc] at later
    exact later

/-- The calls are those that the transport and the clock get. -/
theorem calls_overheard (op : Op) (s : Session σ) :
    Session.Overheard s (op.run H s) (fun log => op.run H.recorded (s.tapped log)) (op.calls H s) := by
  obtain ⟨_, heard⟩ := run_overheard (H := H) op s
  exact heard.of_trace (trace_run op s)

theorem history_overheard (ops : List Op) (s : Session σ) :
    Session.Overheard s (Prog.runs (run H) ops s) (fun log => Prog.runs (run H.recorded) ops (s.tapped log))
      ((history H ops s).map Prod.snd).flatten := by
  obtain ⟨_, heard⟩ := runs_overheard (H := H) ops s
  exact heard.of_trace (trace_runs ops s)

/-- An operation that goes through `transact` does nothing else to the session. -/
theorem snd_run {op : Op} (transacts : op.transacts = true) (s : Session σ) : (op.run H s).2 =
    match op.request s.entry with
    | .error _ => s
    | .ok request => (Session.transact H request s).2 := by
  cases kind : op.typed with
  | true =>
    rw [run_typed kind]
    cases op.request s.entry <;> rfl
  | false =>
    cases op with
    | send _ | transactRaw _ => cases transacts
    | transact request => rw [run, Prog.snd_bind_pure]; rfl
    | _ => cases kind

/-- What an operation that goes through `transact` can do to a session: be
stopped by a guard, be refused by the outbound check, or play its exchanges. -/
inductive Ran (H : Host σ) (op : Op) (s : Session σ) : Session σ → Prop
  | guarded {e} : op.request s.entry = .error e → Ran H op s s
  | refused {request e} : op.request s.entry = .ok request → checkRequest request = .error e →
      Ran H op s { s with lastAttempts := 1 }
  | played {request} : op.request s.entry = .ok request → checkRequest request = .ok () →
      Ran H op s { s with
        world := (s.exchanges H request).2
        trace := s.trace ++ schedule (s.wire request) s.entry.wait (s.exchanges H request).1
        lastAttempts := (s.exchanges H request).1.length
        lastResponseTransactionId := echoed s.lastResponseTransactionId (s.exchanges H request).1 }

theorem ran {op : Op} (transacts : op.transacts = true) (s : Session σ) : Ran H op s (op.run H s).2 := by
  rw [snd_run transacts]
  cases asks : op.request s.entry with
  | error e => exact .guarded asks
  | ok request =>
    cases judged : checkRequest request with
    | error e =>
      simp only [Session.transact_refused judged]
      exact .refused asks judged
    | ok =>
      simp only [Session.transact_accepted judged]
      exact .played asks judged

/-- The other two leave both records alone. -/
theorem records_kept {op : Op} (direct : op.transacts = false) (s : Session σ) :
    (op.run H s).2.lastAttempts = s.lastAttempts ∧
      (op.run H s).2.lastResponseTransactionId = s.lastResponseTransactionId := by
  cases op with
  | send request =>
    rw [run, Prog.snd_bind_pure]
    cases judged : checkRequest request with
    | error e =>
      rw [Session.send_refused judged]
      exact ⟨rfl, rfl⟩
    | ok =>
      rw [Session.send_accepted judged]
      rcases H.setFeature s.world (s.wire request) with ⟨_ | _, w⟩ <;> exact ⟨rfl, rfl⟩
  | transactRaw request =>
    rw [run, Prog.snd_bind_pure]
    cases judged : checkRequest request with
    | error e =>
      rw [Session.transactRaw_refused judged]
      exact ⟨rfl, rfl⟩
    | ok =>
      rw [Session.transactRaw_accepted judged]
      exact ⟨rfl, rfl⟩
  | _ => cases direct

end Op

end OpenRazer
