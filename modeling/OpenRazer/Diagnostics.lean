import OpenRazer.Calls

universe u

namespace OpenRazer

namespace Op

variable {σ : Type u} {H : Host σ}

/-- The responses that were read inside a transaction, over a whole run. -/
def heard (history : List (Op × List Event)) : List UInt8 :=
  (history.filter (·.1.transacts)).flatMap fun block => echoes block.2

/-- One operation records the last complete response of its transaction, if it has one. -/
theorem lastResponse_run (op : Op) (s : Session σ) : (op.run H s).2.lastResponseTransactionId =
    (heard [(op, op.calls H s)]).getLast?.or s.lastResponseTransactionId := by
  cases kind : op.transacts with
  | false =>
    rw [(records_kept kind s).2]
    simp [heard, kind]
  | true =>
    have only : heard [(op, op.calls H s)] = echoes (op.calls H s) := by simp [heard, kind]
    have after := ran (H := H) kind s
    have trace := trace_run (H := H) op s
    rw [only]
    generalize (op.run H s).2 = t at after trace
    cases after with
    | guarded asks =>
      have none : op.calls H s = [] := List.append_right_eq_self.mp trace.symm
      rw [none]
      rfl
    | refused asks judged =>
      have none : op.calls H s = [] := List.append_right_eq_self.mp trace.symm
      rw [none]
      rfl
    | played asks judged =>
      rw [← List.append_cancel_left trace, echoes_schedule]
      exact echoed_eq _ _

theorem heard_append (first second : List (Op × List Event)) : heard (first ++ second) = heard first ++ heard second := by
  rw [heard, List.filter_append, List.flatMap_append, heard, heard]

theorem lastResponse_runs (ops : List Op) (s : Session σ) : (Prog.runs (run H) ops s).2.lastResponseTransactionId =
    (heard (history H ops s)).getLast?.or s.lastResponseTransactionId := by
  induction ops generalizing s with
  | nil => rfl
  | cons op rest ih =>
    have later := ih (op.run H s).2
    rw [lastResponse_run] at later
    have parts : history H (op :: rest) s = [(op, op.calls H s)] ++ history H rest (op.run H s).2 := rfl
    rw [parts, heard_append, List.getLast?_append, Option.or_assoc]
    exact later

/-- An operation in which no transaction reads a complete response: one that does not
go through `transact`, that a guard or the outbound check stops, or whose reads all fail or fall short. -/
inductive Unheard (H : Host σ) (op : Op) (s : Session σ) : Prop
  | direct : op.transacts = false → Unheard H op s
  | guarded {e} : op.request s.entry = .error e → Unheard H op s
  | malformed {request e} : op.request s.entry = .ok request → checkRequest request = .error e → Unheard H op s
  | incomplete : (∀ got buf, .get (.ok got) buf ∈ op.calls H s → got < 91) → Unheard H op s

theorem Unheard.echoes_calls {op : Op} {s : Session σ} (unheard : Unheard H op s) (transacts : op.transacts = true) :
    echoes (op.calls H s) = [] := by
  have after := ran (H := H) transacts s
  have trace := trace_run (H := H) op s
  have still (same : (op.run H s).2.trace = s.trace) : echoes (op.calls H s) = [] := by
    rw [List.append_right_eq_self.mp (trace.symm.trans same)]
    rfl
  cases unheard with
  | direct direct =>
    rw [direct] at transacts
    cases transacts
  | guarded asks =>
    refine still ?_
    rw [snd_run transacts, asks]
  | malformed asks judged =>
    refine still ?_
    simp only [snd_run transacts, asks, Session.transact_refused judged]
  | incomplete incomplete =>
    refine List.filterMap_eq_nil_iff.mpr fun event member => ?_
    cases event with
    | set _ _ | sleep _ => rfl
    | get result buf =>
      cases result with
      | error e => rfl
      | ok got =>
        have short := incomplete got buf member
        exact if_neg (by omega)

/-- The record is byte 1 of the last complete response that a transaction of
the run has read, accepted or not, and nothing else touches it. -/
theorem echo_record_faithful (H : Host σ) (entry : DeviceEntry) (override : Option UInt8) (world : σ) (ops : List Op) :
    let start := Session.built entry override world
    let s := (Prog.runs (run H) ops start).2
    s.trace = ((history H ops start).map Prod.snd).flatten ∧
      s.lastResponseTransactionId = (heard (history H ops start)).getLast? ∧
      ∀ op, Unheard H op s → (op.run H s).2.lastResponseTransactionId = s.lastResponseTransactionId := by
  intro start s
  have fresh : start.lastResponseTransactionId = none := by cases override <;> rfl
  have recorded : s.lastResponseTransactionId = _ := lastResponse_runs ops start
  have trace : s.trace = _ := trace_runs ops start
  rw [(Session.built_unused entry override world).2, List.nil_append] at trace
  rw [fresh, Option.or_none] at recorded
  refine ⟨trace, recorded, fun op unheard => ?_⟩
  have silent : heard [(op, op.calls H s)] = [] := by
    cases kind : op.transacts with
    | false => simp [heard, kind]
    | true => simp [heard, kind, unheard.echoes_calls kind]
  rw [lastResponse_run, silent]
  rfl

/-- The counter says how often this call went to the device, and more than
once only where the device rejected a well-formed report. -/
structure Counted (H : Host σ) (op : Op) (request : RazerReport) (s : Session σ) : Prop where
  attempts : (op.run H s).2.lastAttempts = (sent (op.calls H s)).length
  retried : 1 < (op.run H s).2.lastAttempts →
    checkRequest request = .ok () ∧ ∃ event ∈ op.calls H s, event.Rejected request

/-- A refused request is counted, and was not sent. -/
theorem refused_is_counted {op : Op} {request : RazerReport} {e : ProtoError} {s : Session σ} (transacts : op.transacts = true)
    (asks : op.request s.entry = .ok request) (refused : checkRequest request = .error e) :
    (op.run H s).2.lastAttempts = 1 ∧ sent (op.calls H s) = [] := by
  have after : (op.run H s).2 = { s with lastAttempts := 1 } := by
    simp only [snd_run transacts, asks, Session.transact_refused refused]
  have same : (op.run H s).2.trace = s.trace ++ [] := by rw [after, List.append_nil]
  rw [calls_of_trace same, after]
  exact ⟨rfl, rfl⟩

theorem counted_of_accepted {op : Op} {request : RazerReport} {s : Session σ} (transacts : op.transacts = true)
    (asks : op.request s.entry = .ok request) (accepted : checkRequest request = .ok ()) : Counted H op request s := by
  have after : (op.run H s).2 = (Session.transact H request s).2 := by rw [snd_run transacts, asks]
  rw [Session.transact_accepted accepted] at after
  have trace : (op.run H s).2.trace =
      s.trace ++ schedule (s.wire request) s.entry.wait (s.exchanges H request).1 := by rw [after]
  have number : (op.run H s).2.lastAttempts = (s.exchanges H request).1.length := by rw [after]
  refine ⟨?_, fun several => ⟨accepted, ?_⟩⟩
  · rw [calls_of_trace trace, number, sent_schedule, List.length_replicate]
  · -- All but the last attempt were rejected, and there is one in front of the last.
    rw [number] at several
    have some : (s.exchanges H request).1.dropLast ≠ [] := by
      rw [← List.length_pos_iff, List.length_dropLast]
      omega
    obtain ⟨a, first⟩ := List.exists_mem_of_ne_nil _ some
    have answered : ∃ event ∈ a.events (s.wire request) s.entry.wait, event.Rejected request :=
      Attempt.rejected_events (Host.retry_rejected 4 s.world a first)
    obtain ⟨event, member, rejected⟩ := answered
    rw [calls_of_trace trace]
    exact ⟨event, mem_schedule ((List.dropLast_sublist _).subset first) member, rejected⟩

theorem counted_iff {op : Op} {request : RazerReport} {s : Session σ} (transacts : op.transacts = true)
    (asks : op.request s.entry = .ok request) : Counted H op request s ↔ checkRequest request = .ok () := by
  constructor
  · intro counted
    cases judged : checkRequest request with
    | ok => rfl
    | error e =>
      obtain ⟨one, none⟩ := refused_is_counted (H := H) transacts asks judged
      have same := counted.attempts
      rw [one, none] at same
      cases same
  · exact counted_of_accepted transacts asks

/-- The operation has a well-formed request, if it gets as far as making one. -/
def WellAsked (entry : DeviceEntry) (op : Op) : Prop :=
  ∀ request, op.transacts = true → op.request entry = .ok request → checkRequest request = .ok ()

/-- The operations of a run that got as far as `transact`. -/
def asked (entry : DeviceEntry) (history : List (Op × List Event)) : List (Op × List Event) :=
  history.filter fun block => block.1.transacts && (block.1.request entry).isOk

theorem asked_append (entry : DeviceEntry) (first second : List (Op × List Event)) :
    asked entry (first ++ second) = asked entry first ++ asked entry second :=
  List.filter_append ..

/-- What the counter may say after a run: what it said before, until a
transaction is asked for, then what the latest of them sent. -/
inductive Tally (entry : DeviceEntry) (history : List (Op × List Event)) (before : Nat) : Nat → Prop
  | untouched : asked entry history = [] → Tally entry history before before
  | latest {block request} : (asked entry history).getLast? = some block → block.1.request entry = .ok request →
      checkRequest request = .ok () → (1 < (sent block.2).length → ∃ event ∈ block.2, event.Rejected request) →
      Tally entry history before (sent block.2).length

theorem tally_run {op : Op} {s : Session σ} (well : op.WellAsked s.entry) :
    Tally s.entry [(op, op.calls H s)] s.lastAttempts (op.run H s).2.lastAttempts := by
  cases kind : op.transacts with
  | false =>
    rw [(records_kept kind s).1]
    exact .untouched (by simp [asked, kind])
  | true =>
    cases asks : op.request s.entry with
    | error e =>
      have still : (op.run H s).2 = s := by rw [snd_run kind, asks]
      rw [still]
      exact .untouched (by simp [asked, asks, Except.isOk, Except.toBool])
    | ok request =>
      have accepted := well request kind asks
      have counted := counted_of_accepted (H := H) kind asks accepted
      have only : asked s.entry [(op, op.calls H s)] = [(op, op.calls H s)] := by
        simp [asked, kind, asks, Except.isOk, Except.toBool]
      rw [counted.attempts]
      refine .latest (by rw [only]; rfl) asks accepted fun several => ?_
      exact (counted.retried (by rwa [counted.attempts])).2

theorem tally_runs {ops : List Op} {s : Session σ} (well : ∀ op ∈ ops, op.WellAsked s.entry) :
    Tally s.entry (history H ops s) s.lastAttempts (Prog.runs (run H) ops s).2.lastAttempts := by
  induction ops generalizing s with
  | nil => exact .untouched rfl
  | cons op rest ih =>
    obtain ⟨here, later⟩ := List.forall_mem_cons.mp well
    have sameEntry : (op.run H s).2.entry = s.entry := (run_issues op s).1
    have first := tally_run (H := H) here
    have after := ih (s := (op.run H s).2) (by rwa [sameEntry])
    have parts : asked s.entry (history H (op :: rest) s) =
        asked s.entry [(op, op.calls H s)] ++ asked s.entry (history H rest (op.run H s).2) :=
      asked_append s.entry [(op, op.calls H s)] _
    rw [sameEntry] at after
    change Tally s.entry _ s.lastAttempts (Prog.runs (run H) rest (op.run H s).2).2.lastAttempts
    generalize (Prog.runs (run H) rest (op.run H s).2).2.lastAttempts = final at after ⊢
    cases after with
    | untouched none =>
      generalize (op.run H s).2.lastAttempts = count at first ⊢
      cases first with
      | untouched none' => exact .untouched (by rw [parts, none, none']; rfl)
      | latest last asks accepted retried => exact .latest (by rw [parts, none, List.append_nil, last]) asks accepted retried
    | latest last asks accepted retried =>
      exact .latest (by rw [parts, List.getLast?_append, last]; rfl) asks accepted retried

/-- After every run and for every call, the counter is right about the call
exactly when the request is well-formed; in runs of well-formed requests it is right
throughout. The calls are those that a recorder at the device hears. -/
theorem attempts_counted_iff (H : Host σ) (entry : DeviceEntry) (override : Option UInt8) (world : σ) (ops : List Op) :
    let start := Session.built entry override world
    let s := (Prog.runs (run H) ops start).2
    Session.Overheard start (Prog.runs (run H) ops start) (fun log => Prog.runs (run H.recorded) ops (start.tapped log))
      ((history H ops start).map Prod.snd).flatten ∧
    (∀ op : Op, Session.Overheard s (op.run H s) (fun log => op.run H.recorded (s.tapped log)) (op.calls H s)) ∧
    (∀ op request, op.transacts = true → op.request entry = .ok request →
      (Counted H op request s ↔ checkRequest request = .ok ())) ∧
    ((∀ op ∈ ops, op.WellAsked entry) → Tally entry (history H ops start) 0 s.lastAttempts) := by
  intro start s
  have startEntry : start.entry = entry := (Session.built_unused entry override world).1
  have fresh : start.lastAttempts = 0 := by cases override <;> rfl
  have sameEntry : s.entry = entry := (runs_issue ops start).1.trans startEntry
  refine ⟨history_overheard ops start, fun op => calls_overheard op s,
    fun op request transacts asks => counted_iff transacts (by rwa [sameEntry]), fun well => ?_⟩
  have tally := tally_runs (H := H) (s := start) (by rwa [startEntry])
  rwa [startEntry, fresh] at tally

/-- A payload length that does not fit: the call counts one attempt, and nothing was sent. -/
theorem refused_request_is_counted :
    ¬Counted Mock.host (.transact (RazerReport.new 0x00 0x84 0x51)) (RazerReport.new 0x00 0x84 0x51)
      (Session.new TABLE[2] {}) := by
  rintro ⟨attempts, _⟩
  have refused : checkRequest (RazerReport.new 0x00 0x84 0x51) = .error (.dataSizeTooLarge 0x51) := rfl
  have counted : ((Op.transact (RazerReport.new 0x00 0x84 0x51)).run Mock.host (Session.new TABLE[2] {})).2.lastAttempts = 1 ∧
      sent ((Op.transact (RazerReport.new 0x00 0x84 0x51)).calls Mock.host (Session.new TABLE[2] {})) = [] :=
    refused_is_counted rfl rfl refused
  rw [counted.1, counted.2] at attempts
  cases attempts

end Op

end OpenRazer
