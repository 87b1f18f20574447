import OpenRazer.Attempts
import OpenRazer.Mock

universe u

namespace OpenRazer

/-- What a transaction whose attempts are these returns. -/
def outcome (request : RazerReport) (attempts : List Attempt) : Except HidError RazerReport :=
  match attempts.getLast? with
  | none => .error (.retriesExhausted Session.noResponse)
  | some a =>
    match a.rejection request with
    | some e => .error (.retriesExhausted e)
    | none => a.result

/-- Byte 1 of the latest complete response, or what was recorded before. -/
def echoed (before : Option UInt8) (attempts : List Attempt) : Option UInt8 :=
  attempts.foldl (fun last a => (a.response.map (·.transactionId)).or last) before

namespace Session

variable {σ : Type u} {H : Host σ} {request : RazerReport} {s : Session σ}

/-- The buffer a session makes of a request. -/
def wire (s : Session σ) (request : RazerReport) : Frame :=
  hidrawBuf (request.withTransactionId s.transactionId)

/-- The session with a recorder between it and its device, which has heard `log` so far. -/
def tapped (s : Session σ) (log : List Event) : Session (σ × List Event) where
  entry := s.entry
  world := (s.world, log)
  transactionId := s.transactionId
  lastAttempts := s.lastAttempts
  lastResponseTransactionId := s.lastResponseTransactionId
  trace := s.trace

/-- `run` is of a session that starts as `s`, `behind` the same with a recorder
that has heard `log` so far: it ends in the same way, and these are the calls
that the recorder hears and that the trace gets. -/
def Overheard {β : Type} (s : Session σ) (run : β × Session σ) (behind : List Event → β × Session (σ × List Event))
    (events : List Event) : Prop :=
  run.2.trace = s.trace ++ events ∧ ∀ log, behind log = (run.1, run.2.tapped (log ++ events))

/-- What the trace gets is known, so the recorder hears nothing else. -/
theorem Overheard.of_trace {β : Type} {run : β × Session σ} {behind : List Event → β × Session (σ × List Event)}
    {events events' : List Event} (heard : Overheard s run behind events) (trace : run.2.trace = s.trace ++ events') :
    Overheard s run behind events' := by
  obtain rfl : events = events' := List.append_cancel_left (heard.1.symm.trans trace)
  exact heard

theorem Overheard.hears {β : Type} {run : β × Session σ} {behind : List Event → β × Session (σ × List Event)}
    {events : List Event} (heard : Overheard s run behind events) (log : List Event) :
    (behind log).2.world.2 = log ++ events :=
  congrArg (·.2.world.2) (heard.2 log)

/-- Rewording a result is not heard. -/
theorem Overheard.map {β γ : Type} {run : β × Session σ} {behind : List Event → β × Session (σ × List Event)}
    {events : List Event} (heard : Overheard s run behind events) (f : β → γ) :
    Overheard s (f run.1, run.2) (fun log => (f (behind log).1, (behind log).2)) events :=
  ⟨heard.1, fun log => congrArg (fun here => (f here.1, here.2)) (heard.2 log)⟩

theorem Overheard.of_map {β γ : Type} {f : β → γ} (injective : Function.Injective f) {run : β × Session σ}
    {behind : List Event → β × Session (σ × List Event)} {events : List Event}
    (heard : Overheard s (f run.1, run.2) (fun log => (f (behind log).1, (behind log).2)) events) :
    Overheard s run behind events := by
  refine ⟨heard.1, fun log => ?_⟩
  obtain ⟨result, session⟩ := Prod.mk.inj (heard.2 log)
  exact Prod.ext (injective result) session

theorem overheard_nothing {β : Type} (s : Session σ) (b : β) : Overheard s (b, s) (fun log => (b, s.tapped log)) [] :=
  ⟨(List.append_nil _).symm, fun log => by rw [List.append_nil]⟩

theorem send_refused {e : ProtoError} (refused : checkRequest request = .error e) :
    send H request s = (.error (.proto e), s) := by
  simp only [send, refused, Except.mapError]
  rfl

theorem send_accepted (accepted : checkRequest request = .ok ()) :
    send H request s = match H.setFeature s.world (s.wire request) with
      | (.ok (), w) => (.ok (), { s with
          world := H.sleep w s.entry.wait
          trace := s.trace ++ [.set (s.wire request) (.ok ()), .sleep s.entry.wait] })
      | (.error e, w) => (.error e, { s with
          world := w
          trace := s.trace ++ [.set (s.wire request) (.error e)] }) := by
  simp only [send, accepted, Except.mapError, Prog.bind_apply, Prog.lift_apply, Prog.read_apply, setFeature, sleep, wire]
  rcases H.setFeature s.world (hidrawBuf (request.withTransactionId s.transactionId)) with ⟨_ | _, w⟩ <;> simp

theorem transactRaw_refused {e : ProtoError} (refused : checkRequest request = .error e) :
    transactRaw H request s = (.error (.proto e), s) :=
  Prog.bind_of_error (send_refused refused)

/-- A transaction without validation is one exchange of the stamped request. -/
theorem transactRaw_accepted (accepted : checkRequest request = .ok ()) :
    transactRaw H request s =
      let here := H.exchange s.entry.wait (s.wire request) s.world
      (here.1.result, { s with
        world := here.2
        trace := s.trace ++ here.1.events (s.wire request) s.entry.wait }) := by
  simp only [transactRaw, Prog.bind_apply, send_accepted accepted, Host.exchange]
  rcases H.setFeature s.world (s.wire request) with ⟨e | _, w⟩
  · rfl
  · simp only [getFeature]
    rcases H.getFeature (H.sleep w s.entry.wait) (Vector.replicate 91 0) with ⟨e | got, reply, w⟩
    · simp [Attempt.result, Attempt.events, Except.map]
    · by_cases short : got < 91 <;> simp [Attempt.result, Attempt.events, Except.map, short]

/-- What an attempt hands to the retry loop. -/
def verdict (request : RazerReport) (a : Attempt) : Except HidError (RazerReport ⊕ Option ProtoError) :=
  match a.rejection request with
  | some e => .ok (.inr (some e))
  | none => a.result.map .inl

/-- The pause in front of every attempt but the first. -/
def rested (H : Host σ) (attempt : Nat) (s : Session σ) : Session σ :=
  if attempt > 0 then { s with world := H.sleep s.world RETRY_DELAY, trace := s.trace ++ [.sleep RETRY_DELAY] } else s

theorem rested_apply (attempt : Nat) : 
    (if attempt > 0 then sleep H RETRY_DELAY else pure () : SessionM σ Unit) s = (.ok (), rested H attempt s) := by
  unfold rested
  split <;> rfl

theorem transactAttempt_accepted (accepted : checkRequest request = .ok ()) (attempt : Nat) (last : Option ProtoError) :
    transactAttempt H request attempt last s =
      let t := rested H attempt s
      let here := H.exchange t.entry.wait (t.wire request) t.world
      (verdict request here.1, { t with
        world := here.2
        trace := t.trace ++ here.1.events (t.wire request) t.entry.wait
        lastAttempts := attemptNumber attempt
        lastResponseTransactionId := (here.1.response.map (·.transactionId)).or t.lastResponseTransactionId }) := by
  simp only [transactAttempt, Prog.bind_apply, rested_apply, Prog.modify_apply, transactRaw_accepted accepted]
  generalize rested H attempt s = t
  have same : wire { t with lastAttempts := attemptNumber attempt } request = t.wire request := rfl
  rw [same]
  rcases H.exchange t.entry.wait (t.wire request) t.world with ⟨a, w⟩
  cases a with
  | answered got reply complete =>
    cases judged : checkResponse request (RazerReport.fromBytes reply.report) <;>
      simp [Attempt.result, verdict, Attempt.rejection, Attempt.response, judged, Except.map]
  | _ => rfl

/-- What the retry loop ends with. -/
def settled (request : RazerReport) (attempts : List Attempt) : Except HidError (RazerReport ⊕ Option ProtoError) :=
  match attempts.getLast? with
  | none => .ok (.inr none)
  | some a => verdict request a

/-- The loop plays the exchanges of `Host.retry`, whatever attempt it starts from. -/
theorem loop_accepted (accepted : checkRequest request = .ok ()) (n attempt : Nat) (last : Option ProtoError) :
    Prog.loop (transactAttempt H request) (n + 1) attempt last s =
      let t := rested H attempt s
      let played := H.retry request t.entry.wait (t.wire request) n t.world
      (settled request played.1, { t with
        world := played.2
        trace := t.trace ++ schedule (t.wire request) t.entry.wait played.1
        lastAttempts := attemptNumber (attempt + played.1.length - 1)
        lastResponseTransactionId := echoed t.lastResponseTransactionId played.1 }) := by
  induction n generalizing attempt last s with
  | zero =>
    simp only [Prog.loop, Prog.bind_apply, transactAttempt_accepted accepted, Host.retry, schedule_single]
    generalize rested H attempt s = t
    rcases H.exchange t.entry.wait (t.wire request) t.world with ⟨a, w⟩
    simp only [settled, List.getLast?_singleton, echoed, List.foldl_cons, List.foldl_nil, List.length_singleton,
      Nat.add_sub_cancel]
    rcases verdict request a with e | (response | e) <;> rfl
  | succ n ih =>
    rw [Prog.loop]
    simp only [Prog.bind_apply, transactAttempt_accepted accepted]
    generalize rested H attempt s = t
    by_cases rejected : ((H.exchange t.entry.wait (t.wire request) t.world).1.rejection request).isSome
    · obtain ⟨e, complaint⟩ := Option.isSome_iff_exists.mp rejected
      have again : verdict request (H.exchange t.entry.wait (t.wire request) t.world).1 = .ok (.inr (some e)) := by
        simp only [verdict, complaint]
      have more : (H.retry request t.entry.wait (hidrawBuf (request.withTransactionId t.transactionId)) n
          (H.sleep (H.exchange t.entry.wait (hidrawBuf (request.withTransactionId t.transactionId)) t.world).2
            RETRY_DELAY)).1 ≠ [] :=
        Host.retry_ne_nil n _
      rw [again, Host.retry_again rejected]
      simp only [ih, rested, Nat.zero_lt_succ, if_true, wire, settled, List.getLast?_cons_of_ne_nil more,
        schedule_cons _ _ _ more, echoed, List.foldl_cons, List.append_assoc, List.singleton_append, List.length_cons]
      rw [show ∀ k, attempt + 1 + k - 1 = attempt + (k + 1) - 1 by omega]
    · rw [Host.retry_settled rejected]
      have none := Option.not_isSome_iff_eq_none.mp rejected
      simp only [settled, verdict, List.getLast?_singleton, none, schedule_single, echoed, List.foldl_cons,
        List.foldl_nil, List.length_singleton, Nat.add_sub_cancel]
      rcases (H.exchange t.entry.wait (t.wire request) t.world).1.result with e | response <;> rfl

theorem attemptNumber_succ (attempt : Nat) (bound : attempt < MAX_ATTEMPTS) : attemptNumber attempt = attempt + 1 := by
  simp only [MAX_ATTEMPTS] at bound
  simp only [attemptNumber]
  omega

/-- The exchanges one transaction of this session would make. -/
def exchanges (H : Host σ) (request : RazerReport) (s : Session σ) : List Attempt × σ :=
  H.retry request s.entry.wait (s.wire request) 4 s.world

theorem exchanges_bounds (H : Host σ) (request : RazerReport) (s : Session σ) :
    1 ≤ (exchanges H request s).1.length ∧ (exchanges H request s).1.length ≤ MAX_ATTEMPTS :=
  ⟨List.length_pos_iff.mpr (Host.retry_ne_nil _ _), Host.retry_length_le _ _⟩

/-- The whole effect of a transaction on a request the outbound check accepts. -/
theorem transact_accepted (accepted : checkRequest request = .ok ()) :
    transact H request s =
      let played := exchanges H request s
      (outcome request played.1, { s with
        world := played.2
        trace := s.trace ++ schedule (s.wire request) s.entry.wait played.1
        lastAttempts := played.1.length
        lastResponseTransactionId := echoed s.lastResponseTransactionId played.1 }) := by
  obtain ⟨positive, bound⟩ := exchanges_bounds H request s
  have number := attemptNumber_succ ((exchanges H request s).1.length - 1) (by omega)
  simp only [exchanges] at positive number
  simp only [transact, MAX_ATTEMPTS, Prog.bind_apply, loop_accepted accepted, rested, gt_iff_lt, Nat.lt_irrefl,
    if_false, Nat.zero_add, number, Nat.sub_add_cancel positive, exchanges, settled, outcome]
  cases (H.retry request s.entry.wait (s.wire request) 4 s.world).1.getLast? with
  | none => rfl
  | some a =>
    simp only [verdict]
    cases a.rejection request with
    | some e => rfl
    | none => rcases a.result with e | response <;> rfl

/-- A refused request ends the transaction in its first attempt, which is counted. -/
theorem transact_refused {e : ProtoError} (refused : checkRequest request = .error e) :
    transact H request s = (.error (.proto e), { s with lastAttempts := 1 }) := by
  simp only [transact, MAX_ATTEMPTS, Prog.loop, transactAttempt, Prog.bind_apply, rested_apply, Prog.modify_apply,
    transactRaw_refused refused]
  rfl

theorem exchanges_last (H : Host σ) (request : RazerReport) (s : Session σ) : ∃ a, (exchanges H request s).1.getLast? = some a :=
  Option.isSome_iff_exists.mp (List.getLast?_isSome.mpr (Host.retry_ne_nil _ _))

theorem outcome_last {attempts : List Attempt} {a : Attempt} (last : attempts.getLast? = some a) :
    outcome request attempts = match a.rejection request with
      | some e => .error (.retriesExhausted e)
      | none => a.result := by
  simp only [outcome, last]

theorem exchanges_tapped (request : RazerReport) (s : Session σ) (log : List Event) :
    exchanges H.recorded request (s.tapped log) = ((exchanges H request s).1, (exchanges H request s).2,
      log ++ schedule (s.wire request) s.entry.wait (exchanges H request s).1) :=
  Host.retry_recorded 4 s.world log

/-- What the recorder hears of a transaction is its schedule. -/
theorem transact_overheard (accepted : checkRequest request = .ok ()) :
    Overheard s (transact H request s) (fun log => transact H.recorded request (s.tapped log))
      (schedule (s.wire request) s.entry.wait (exchanges H request s).1) := by
  refine ⟨by rw [transact_accepted accepted], fun log => (transact_accepted accepted).trans ?_⟩
  rw [transact_accepted accepted, exchanges_tapped]
  rfl

/-- A refused request is not heard. -/
theorem overheard_refused {e : ProtoError} (refused : checkRequest request = .error e) :
    Overheard s (transact H request s) (fun log => transact H.recorded request (s.tapped log)) [] := by
  rw [transact_refused refused]
  refine ⟨(List.append_nil _).symm, fun log => (transact_refused refused).trans ?_⟩
  rw [List.append_nil]
  rfl

theorem send_overheard (request : RazerReport) (s : Session σ) :
    ∃ events, Overheard s (send H request s) (fun log => send H.recorded request (s.tapped log)) events := by
  cases judged : checkRequest request with
  | error e =>
    simp only [send_refused judged]
    exact ⟨[], overheard_nothing s _⟩
  | ok =>
    have behind (log : List Event) : send H.recorded request (s.tapped log) = _ := send_accepted judged
    rw [send_accepted judged]
    rcases set : H.setFeature s.world (s.wire request) with ⟨e | _, w⟩
    · have noted (log : List Event) : H.recorded.setFeature (s.world, log) (s.wire request) =
          (.error e, w, log ++ [.set (s.wire request) (.error e)]) := by
        simp only [Host.recorded, set]
      refine ⟨[.set (s.wire request) (.error e)], rfl, fun log => (behind log).trans ?_⟩
      rw [show H.recorded.setFeature (s.tapped log).world ((s.tapped log).wire request) = _ from noted log]
      rfl
    · have noted (log : List Event) : H.recorded.setFeature (s.world, log) (s.wire request) =
          (.ok (), w, log ++ [.set (s.wire request) (.ok ())]) := by
        simp only [Host.recorded, set]
      refine ⟨[.set (s.wire request) (.ok ()), .sleep s.entry.wait], rfl, fun log => (behind log).trans ?_⟩
      rw [show H.recorded.setFeature (s.tapped log).world ((s.tapped log).wire request) = _ from noted log]
      simp only [Host.recorded, tapped, List.append_assoc, List.singleton_append]
      rfl

theorem transactRaw_overheard (request : RazerReport) (s : Session σ) :
    ∃ events, Overheard s (transactRaw H request s) (fun log => transactRaw H.recorded request (s.tapped log)) events := by
  cases judged : checkRequest request with
  | error e =>
    simp only [transactRaw_refused judged]
    exact ⟨[], overheard_nothing s _⟩
  | ok =>
    refine ⟨_, by rw [transactRaw_accepted judged], fun log => (transactRaw_accepted judged).trans ?_⟩
    rw [transactRaw_accepted judged]
    simp only [tapped, Host.exchange_recorded]
    rfl

/-- A transaction is a run of at most five blocks, 10 ms apart, all but the
last of them answered and rejected; the last one alone decides what is returned. The
calls are those that the transport and the clock get, and the answers are theirs. -/
theorem transact_retry_schedule (accepted : checkRequest request = .ok ()) :
    ∃ attempts : List Attempt, 1 ≤ attempts.length ∧ attempts.length ≤ 5 ∧
      exchanges H request s = (attempts, (transact H request s).2.world) ∧
      Overheard s (transact H request s) (fun log => transact H.recorded request (s.tapped log))
        (schedule (s.wire request) s.entry.wait attempts) ∧
      (∀ a ∈ attempts.dropLast, ∃ r e, a.response = some r ∧ checkResponse request r = .error e) ∧
      (∀ r, (transact H request s).1 = .ok r ↔
        ∃ a, attempts.getLast? = some a ∧ a.response = some r ∧ checkResponse request r = .ok ()) ∧
      (∀ a e, attempts.getLast? = some a → a.fault = some e → (transact H request s).1 = .error e) ∧
      -- With a transport that reports its faults as the trait says, no error can be mistaken for another.
      (H.Lawful →
        (∀ last, (transact H request s).1 = .error (.retriesExhausted last) ↔ attempts.length = 5 ∧
          ∃ a r, attempts.getLast? = some a ∧ a.response = some r ∧ checkResponse request r = .error last) ∧
        (∀ op errno, (transact H request s).1 = .error (.io op errno) ↔
          attempts.getLast? = some (.setFailed (.io op errno)) ∨
            ∃ reply, attempts.getLast? = some (.getFailed (.io op errno) reply)) ∧
        (∀ got, (transact H request s).1 = .error (.shortRead got) ↔
          ∃ reply cut, attempts.getLast? = some (.short got reply cut)) ∧
        (transact H request s).1 ≠ .error (.retriesExhausted noResponse)) := by
  have heard := transact_overheard (H := H) (s := s) accepted
  rw [transact_accepted accepted] at heard ⊢
  obtain ⟨positive, bound⟩ := exchanges_bounds H request s
  obtain ⟨a, last⟩ := exchanges_last H request s
  have exhausted : (a.rejection request).isSome → (exchanges H request s).1.length = 5 :=
    Host.retry_exhausted 4 s.world last
  refine ⟨(exchanges H request s).1, positive, bound, rfl, heard, ?_, ?_, ?_, ?_⟩
  · intro b member
    obtain ⟨e, complaint⟩ := Option.isSome_iff_exists.mp (Host.retry_rejected 4 s.world b member)
    obtain ⟨r, response, rejected⟩ := Attempt.rejection_eq_some.mp complaint
    exact ⟨r, e, response, rejected⟩
  · simp only [outcome_last last, last, Option.some.injEq, exists_eq_left']
    cases a with
    | answered got reply complete =>
      cases judged : checkResponse request (RazerReport.fromBytes reply.report) <;>
        simp [Attempt.rejection, Attempt.response, Attempt.result, judged]
    | _ => simp [Attempt.rejection, Attempt.response, Attempt.result]
  · intro b e same fault
    obtain ⟨unjudged, result⟩ := Attempt.of_fault request fault
    simp only [outcome_last same, unjudged, result]
  · intro law
    have faults {e : HidError} : a.fault = some e → ∃ op errno, e = .io op errno :=
      Host.retry_forall (P := fun a => a.fault = some e → ∃ op errno, e = .io op errno)
        (fun w faulted => law.exchange_fault w faulted) 4 s.world a (List.mem_of_getLast? last)
    simp only [outcome_last last, last, Option.some.injEq]
    cases a with
    | setFailed e =>
      obtain ⟨op, errno, rfl⟩ := faults rfl
      simp [Attempt.rejection, Attempt.response, Attempt.result]
    | getFailed e reply =>
      obtain ⟨op, errno, rfl⟩ := faults rfl
      simp [Attempt.rejection, Attempt.response, Attempt.result]
    | short got reply cut =>
      simpa [Attempt.rejection, Attempt.response, Attempt.result] using cut
    | answered got reply complete =>
      cases judged : checkResponse request (RazerReport.fromBytes reply.report) with
      | ok =>
        simp [Attempt.rejection, Attempt.response, Attempt.result, judged]
      | error e =>
        have five := exhausted (by simp [Attempt.rejection, Attempt.response, judged])
        have real : e ≠ noResponse := by
          rintro rfl
          exact checkResponse_not_malformed judged
        simpa [Attempt.rejection, Attempt.response, judged, five] using real

/-- A mouse that swallows the report and then produces nothing. -/
theorem transact_retry_schedule_silent_mouse :
    ∃ attempts : List Attempt, 1 ≤ attempts.length ∧ attempts.length ≤ 5 ∧
      (transact Mock.host.recorded Cmd.getDeviceMode ((Session.new TABLE[0] {}).tapped [])).2.world.2 =
        schedule (wire (Session.new TABLE[0] ({} : Mock)) Cmd.getDeviceMode) (.fromMicros 31000) attempts ∧
      (transact Mock.host Cmd.getDeviceMode (Session.new TABLE[0] {})).1 ≠ .error (.retriesExhausted noResponse) := by
  obtain ⟨attempts, positive, bound, _, heard, _, _, _, lawful⟩ :=
    transact_retry_schedule (H := Mock.host) (s := Session.new TABLE[0] {}) (rfl : checkRequest Cmd.getDeviceMode = .ok ())
  obtain ⟨_, _, _, real⟩ := lawful Mock.host_lawful
  exact ⟨attempts, positive, bound, heard.hears [], real⟩

end Session

end OpenRazer
