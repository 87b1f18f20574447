import Mathlib.Tactic.Ring
import OpenRazer.Calls
import OpenRazer.Recording

universe u

namespace OpenRazer

/-- What the argument bytes of a command say, by its class and id. -/
def meanings : List ((UInt8 × UInt8) × (Arguments → Option Op)) := [
  ((0x00, 0x04), fun args => (DeviceMode.fromU8 (args.get 0)).map .setDeviceMode),
  ((0x00, 0x84), fun _ => some .getDeviceMode),
  ((0x00, 0x81), fun _ => some .firmwareVersion),
  ((0x00, 0x82), fun _ => some .serial),
  ((0x0F, 0x04), fun args => some (.setBrightness (args.get 2))),
  ((0x0F, 0x84), fun _ => some .getBrightness),
  ((0x0F, 0x02), fun args => some (.setStaticEffect ⟨args.get 6, args.get 7, args.get 8⟩)),
  ((0x00, 0x05), fun args => (PollRate.fromLegacyCode (args.get 0)).map .setPollRate),
  ((0x00, 0x40), fun args => (PollRate.fromV2Code (args.get 1)).map .setPollRate),
  ((0x00, 0x85), fun _ => some .getPollRate),
  ((0x00, 0xC0), fun _ => some .getPollRate)]

/-- What a report asks of whatever device it is sent to. -/
def RazerReport.asks (report : RazerReport) : Option Op :=
  (meanings.lookup (report.commandClass, report.commandId)).bind fun meaning => meaning report.arguments

theorem RazerReport.asks_eq {report : RazerReport} {meaning : Arguments → Option Op}
    (known : meanings.lookup (report.commandClass, report.commandId) = some meaning) :
    report.asks = meaning report.arguments := by
  rw [asks, known]
  rfl

theorem RazerReport.asks_withTransactionId (report : RazerReport) (tid : UInt8) :
    (report.withTransactionId tid).asks = report.asks := by
  simp only [asks, withTransactionId]

theorem RazerReport.withArgs_get {n : Nat} (r : RazerReport) (args : Vector UInt8 n) (fits : n ≤ 80) {i : Fin 80}
    (bound : i.val < n) : (r.withArgs args fits).arguments.get i = args[i.val] :=
  r.withArgs_arguments args fits bound

def Frame.asks (buf : Frame) : Option Op :=
  (RazerReport.fromBytes buf.report).asks

/-- The frames that open a transaction. One that follows a pause after an answer
is a retry. -/
def opening : List Event → List Frame
  | [] => []
  | .get _ _ :: .sleep _ :: .set _ _ :: rest => opening rest
  | .set buf _ :: rest => buf :: opening rest
  | .get _ _ :: rest => opening rest
  | .sleep _ :: rest => opening rest

def Duration.total (l : List Duration) : Duration :=
  ⟨(l.map Duration.nanos).sum⟩

/-- The SETs of a trace that went out. -/
def delivered (trace : List Event) : Nat :=
  trace.countP fun
    | .set _ (.ok ()) => true
    | _ => false

namespace Op

variable {entry : DeviceEntry} {op : Op} {request : RazerReport}

/-- Is there a request, and does it pass the outbound check? -/
def reaches (entry : DeviceEntry) (op : Op) : Bool :=
  match op.request entry with
  | .ok request => (checkRequest request).isOk
  | .error _ => false

theorem reaches_of_ok (asks : op.request entry = .ok request) (accepted : checkRequest request = .ok ()) :
    op.reaches entry = true := by
  simp only [reaches, asks, accepted]
  rfl

theorem reaches_of_refused {e : ProtoError} (asks : op.request entry = .ok request) (refused : checkRequest request = .error e) :
    op.reaches entry = false := by
  simp only [reaches, asks, refused]
  rfl

theorem reaches_of_guarded {e : HidError} (guarded : op.request entry = .error e) : op.reaches entry = false := by
  simp only [reaches, guarded]

/-- The class and the id tell the commands apart, the arguments the values. -/
theorem asks_request (typed : op.typed = true) (asks : op.request entry = .ok request) : request.asks = some op := by
  have lit {make : LedId → RazerReport} (asks : (do return make (← ledOf entry)) = .ok request) :
      ∃ led, make led = request := by
    rcases ledOf_then entry make with ⟨led, found⟩ | unknown
    · exact ⟨led, Except.ok.inj (found.symm.trans asks)⟩
    · rw [unknown] at asks
      cases asks
  cases op with
  | send _ | transactRaw _ | transact _ => cases typed
  | getDeviceMode | firmwareVersion | serial =>
    obtain rfl := Except.ok.inj (asked_of_guarded asks)
    rfl
  | setDeviceMode mode =>
    obtain rfl := Except.ok.inj (asked_of_guarded asks)
    refine (RazerReport.asks_eq rfl).trans ?_
    rw [Cmd.setDeviceMode, RazerReport.withArgs_get _ _ _ (by decide)]
    cases mode <;> rfl
  | getBrightness =>
    obtain ⟨led, rfl⟩ := lit (asked_of_guarded asks)
    rfl
  | setBrightness brightness =>
    obtain ⟨led, rfl⟩ := lit (asked_of_guarded asks)
    refine (RazerReport.asks_eq rfl).trans ?_
    rw [Cmd.setBrightness, RazerReport.withArgs_get _ _ _ (by decide)]
    rfl
  | setStaticEffect rgb =>
    obtain ⟨led, rfl⟩ := lit (asked_of_guarded asks)
    refine (RazerReport.asks_eq rfl).trans ?_
    rw [Cmd.setStaticEffect, RazerReport.withArgs_get _ _ _ (by decide), RazerReport.withArgs_get _ _ _ (by decide),
      RazerReport.withArgs_get _ _ _ (by decide)]
    rfl
  | setPollRate rate =>
    have chosen := asked_of_guarded asks
    cases kind : entry.pollRateKind with
    | v2 =>
      rw [kind] at chosen
      obtain rfl := Except.ok.inj chosen
      refine (RazerReport.asks_eq rfl).trans ?_
      rw [Cmd.setPollRateV2, RazerReport.withArgs_get _ _ _ (by decide)]
      exact congrArg (Option.map setPollRate) (PollRate.fromV2Code_v2Code rate)
    | legacy =>
      rw [kind] at chosen
      cases code : rate.legacyCode with
      | none => simp [Cmd.setPollRateLegacy, code, Except.mapError] at chosen
      | some byte =>
        simp only [Cmd.setPollRateLegacy, code, Except.mapError, Except.ok.injEq] at chosen
        obtain rfl := chosen
        refine (RazerReport.asks_eq rfl).trans ?_
        rw [RazerReport.withArgs_get _ _ _ (by decide)]
        exact congrArg (Option.map setPollRate) (PollRate.fromLegacyCode_legacyCode code)
  | getPollRate =>
    have chosen := asked_of_guarded asks
    cases kind : entry.pollRateKind with
    | v2 | legacy =>
      rw [kind] at chosen
      obtain rfl := Except.ok.inj chosen
      rfl

end Op

theorem Frame.asks_hidrawBuf {report : RazerReport} (canonical : report.status.Canonical) :
    (hidrawBuf report).asks = report.asks := by
  simp only [Frame.asks, report_hidrawBuf, RazerReport.fromBytes_toBytes canonical, RazerReport.asks]

/-- Nothing more on the bus, or a SET next: what an operation leaves to the later ones. -/
def Fresh : List Event → Prop
  | [] => True
  | .set _ _ :: _ => True
  | _ => False

theorem opening_get {result : Except HidError Nat} {reply : Frame} {rest : List Event} (fresh : Fresh rest) :
    opening (.get result reply :: rest) = opening rest := by
  rcases rest with _ | ⟨_ | _ | _, _⟩
  · rfl
  · rfl
  · exact fresh.elim
  · exact fresh.elim

/-- A transaction opens once, with its first SET. -/
theorem opening_schedule {request : RazerReport} (buf : Frame) (wait : Duration) {attempts : List Attempt} {rest : List Event}
    (some : attempts ≠ []) (rejected : ∀ a ∈ attempts.dropLast, (a.rejection request).isSome) (fresh : Fresh rest) :
    ∃ result later, schedule buf wait attempts ++ rest = .set buf result :: later ∧ opening later = opening rest := by
  induction attempts with
  | nil => exact (some rfl).elim
  | cons a more ih =>
    by_cases last : more = []
    · subst last
      rw [schedule_single]
      cases a with
      | setFailed e => exact ⟨_, rest, rfl, rfl⟩
      | getFailed _ _ | short _ _ _ | answered _ _ _ => exact ⟨_, _, rfl, opening_get fresh⟩
    · rw [List.dropLast_cons_of_ne_nil last] at rejected
      obtain ⟨result, later, shape, same⟩ := ih last fun a member => rejected a (List.mem_cons_of_mem _ member)
      rw [schedule_cons buf wait a last, List.append_assoc, List.cons_append, shape]
      obtain ⟨r, response, _⟩ := Attempt.rejection_eq_some.mp
        (Option.isSome_iff_exists.mp (rejected a (List.mem_cons_self ..))).choose_spec
      cases a with
      | setFailed _ | getFailed _ _ | short _ _ _ => cases response
      | answered got reply complete => exact ⟨_, _, rfl, same⟩

namespace Op

variable {σ : Type u} {H : Host σ}

theorem entry_run (op : Op) (s : Session σ) : (op.run H s).2.entry = s.entry :=
  (run_issues op s).1

/-- The calls of a typed operation, whatever the device makes of them. -/
inductive Calls (H : Host σ) (op : Op) (s : Session σ) : List Event → Prop
  | none : op.reaches s.entry = false → Calls H op s []
  | transaction {request} : op.reaches s.entry = true → op.request s.entry = .ok request →
      checkRequest request = .ok () →
      Calls H op s (schedule (s.wire request) s.entry.wait (s.exchanges H request).1)

theorem calls_of_transacts {op : Op} (transacts : op.transacts = true) (s : Session σ) : Calls H op s (op.calls H s) := by
  have trace := trace_run (H := H) op s
  have silent (same : (op.run H s).2.trace = s.trace) : op.calls H s = [] :=
    calls_of_trace (same.trans (List.append_nil _).symm)
  have after := ran (H := H) transacts s
  generalize (op.run H s).2 = t at after trace silent
  cases after with
  | guarded guard =>
    rw [silent rfl]
    exact .none (reaches_of_guarded guard)
  | refused asks refused =>
    rw [silent rfl]
    exact .none (reaches_of_refused asks refused)
  | played asks accepted =>
    rw [List.append_cancel_left trace.symm]
    exact .transaction (reaches_of_ok asks accepted) asks accepted

theorem transacts_of_typed {op : Op} (typed : op.typed = true) : op.transacts = true := by
  cases op with
  | send _ | transactRaw _ | transact _ => cases typed
  | _ => rfl

/-- What a run of typed operations leaves on the bus opens with the frames of those that ask. -/
theorem opening_history (ops : List Op) (s : Session σ) (typed : ∀ op ∈ ops, op.typed = true) :
    Fresh ((history H ops s).map Prod.snd).flatten ∧
      (opening ((history H ops s).map Prod.snd).flatten).map Frame.asks = (ops.filter (reaches s.entry)).map some := by
  induction ops generalizing s with
  | nil => exact ⟨trivial, rfl⟩
  | cons op rest ih =>
    obtain ⟨fresh, later⟩ := ih (op.run H s).2 fun op member => typed op (List.mem_cons_of_mem _ member)
    have here := typed op (List.mem_cons_self ..)
    rw [entry_run] at later
    have calls := calls_of_transacts (H := H) (transacts_of_typed here) s
    simp only [history, List.map_cons, List.flatten_cons]
    generalize op.calls H s = events at calls
    generalize ((history H rest (op.run H s).2).map Prod.snd).flatten = more at fresh later
    cases calls with
    | none silent =>
      rw [List.filter_cons_of_neg (by rw [silent]; exact Bool.false_ne_true)]
      exact ⟨fresh, later⟩
    | transaction reaches asks accepted =>
      rename_i request
      obtain ⟨result, after, shape, same⟩ := opening_schedule (s.wire request) s.entry.wait (Host.retry_ne_nil 4 s.world)
        (Host.retry_rejected 4 s.world) fresh
      rw [Session.exchanges, shape, List.filter_cons_of_pos reaches]
      refine ⟨trivial, ?_⟩
      obtain ⟨_, new, _⟩ := request_typed here asks
      have canonical : (request.withTransactionId s.transactionId).status.Canonical := by
        rw [RazerReport.withTransactionId, new]
        trivial
      have asked : (s.wire request).asks = some op := by
        rw [Session.wire, Frame.asks_hidrawBuf canonical, RazerReport.asks_withTransactionId]
        exact asks_request here asks
      simp only [opening, same, List.map_cons, asked, later]

/-- The bus tells what was asked: from the frames, the pauses and the answers
of a run alone the operations that asked anything are read off, in order, each
once, whatever the device was, said or did. -/
theorem bus_tells_operations (H : Host σ) (s : Session σ) (ops : List Op) (typed : ∀ op ∈ ops, op.typed = true) :
    ∃ events, Session.Overheard s (Prog.runs (run H) ops s) (fun log => Prog.runs (run H.recorded) ops (s.tapped log)) events ∧
      (opening events).map Frame.asks = (ops.filter (reaches s.entry)).map some :=
  ⟨_, history_overheard ops s, (opening_history ops s typed).2⟩

theorem bus_tells_operations_troubled :
    ∃ events, (Prog.runs (run FlakyFile.host.recorded) [.setPollRate .hz8000, .setBrightness 0x40]
        ((FlakyFile.troubled TABLE[2]).tapped [])).2.world.2 = events ∧
      (opening events).map Frame.asks =
        ([.setPollRate .hz8000, .setBrightness 0x40].filter (reaches (FlakyFile.troubled TABLE[2]).entry)).map some := by
  obtain ⟨events, heard, opened⟩ :=
    bus_tells_operations FlakyFile.host (FlakyFile.troubled TABLE[2]) [.setPollRate .hz8000, .setBrightness 0x40] (by decide)
  exact ⟨events, heard.hears [], opened⟩

end Op

theorem slept_append (first second : List Event) : slept (first ++ second) = slept first ++ slept second :=
  List.filterMap_append

theorem Duration.total_append (first second : List Duration) :
    (total (first ++ second)).nanos = (total first).nanos + (total second).nanos := by
  simp only [total, List.map_append, List.sum_append]

/-- The pauses of `n` requests: the wait of the device after each SET that
went out, and ten milliseconds before each SET but the first of a request. -/
structure Spent (wait : Duration) (n : Nat) (events : List Event) : Prop where
  time : (Duration.total (slept events)).nanos + RETRY_DELAY.nanos * n =
    wait.nanos * delivered events + RETRY_DELAY.nanos * (sent events).length
  least : n ≤ (sent events).length
  most : (sent events).length ≤ MAX_ATTEMPTS * n
  out : delivered events ≤ (sent events).length

namespace Spent

variable {wait : Duration} {n m : Nat} {first second : List Event}

theorem nil (wait : Duration) : Spent wait 0 [] :=
  ⟨rfl, Nat.le_refl 0, Nat.le_refl 0, Nat.le_refl 0⟩

theorem append (one : Spent wait n first) (two : Spent wait m second) : Spent wait (n + m) (first ++ second) where
  time := by
    rw [slept_append, Duration.total_append, delivered, List.countP_append, sent_append, List.length_append]
    have a := one.time
    have b := two.time
    simp only [delivered] at a b
    simp only [Nat.mul_add]
    omega
  least := by
    rw [sent_append, List.length_append]
    exact Nat.add_le_add one.least two.least
  most := by
    rw [sent_append, List.length_append, Nat.mul_add]
    exact Nat.add_le_add one.most two.most
  out := by
    rw [delivered, List.countP_append, sent_append, List.length_append]
    exact Nat.add_le_add one.out two.out

theorem single {events : List Event} (frames : (sent events).length = 1) (out : delivered events ≤ 1)
    (paused : (Duration.total (slept events)).nanos = wait.nanos * delivered events) : Spent wait 1 events := by
  refine ⟨?_, ?_, ?_, ?_⟩
  · rw [frames, paused]
  · rw [frames]
  · rw [frames]
    decide
  · rw [frames]
    exact out

theorem attempt (buf : Frame) (wait : Duration) (a : Attempt) : Spent wait 1 (a.events buf wait) := by
  have frames : (sent (a.events buf wait)).length = 1 := congrArg List.length (a.sent_events buf wait)
  cases a with
  | setFailed _ => exact single frames (Nat.zero_le 1) rfl
  | getFailed _ _ | short _ _ _ | answered _ _ _ => exact single frames (Nat.le_refl 1) (Nat.mul_one _).symm

/-- Each further attempt of a transaction costs a pause of its own. -/
theorem again (one : Spent wait 1 first) (two : Spent wait 1 second)
    (room : (sent first).length + (sent second).length ≤ MAX_ATTEMPTS) :
    Spent wait 1 (first ++ .sleep RETRY_DELAY :: second) where
  time := by
    have a := one.time
    have b := two.time
    have pause : (Duration.total (slept (.sleep RETRY_DELAY :: second))).nanos =
        RETRY_DELAY.nanos + (Duration.total (slept second)).nanos := rfl
    have silent : sent (.sleep RETRY_DELAY :: second) = sent second := rfl
    have still : delivered (.sleep RETRY_DELAY :: second) = delivered second := rfl
    rw [slept_append, Duration.total_append, pause, delivered, List.countP_append, ← delivered, ← delivered, still,
      sent_append, silent, List.length_append, Nat.mul_add, Nat.mul_add]
    omega
  least := by
    rw [sent_append, List.length_append]
    have some := one.least
    omega
  most := by
    have silent : sent (.sleep RETRY_DELAY :: second) = sent second := rfl
    rw [sent_append, silent, List.length_append]
    omega
  out := by
    have silent : sent (.sleep RETRY_DELAY :: second) = sent second := rfl
    have still : delivered (.sleep RETRY_DELAY :: second) = delivered second := rfl
    rw [delivered, List.countP_append, ← delivered, ← delivered, still, sent_append, silent, List.length_append]
    exact Nat.add_le_add one.out two.out

theorem schedule (buf : Frame) (wait : Duration) {attempts : List Attempt} (some : attempts ≠ [])
    (bound : attempts.length ≤ MAX_ATTEMPTS) : Spent wait 1 (schedule buf wait attempts) := by
  induction attempts with
  | nil => exact (some rfl).elim
  | cons a rest ih =>
    by_cases last : rest = []
    · subst last
      rw [schedule_single]
      exact attempt buf wait a
    · rw [schedule_cons buf wait a last]
      rw [List.length_cons] at bound
      refine again (attempt buf wait a) (ih last (by omega)) ?_
      rw [a.sent_events, sent_schedule, List.length_replicate, List.length_singleton]
      omega

end Spent

namespace Op

variable {σ : Type u} {H : Host σ}

theorem calls_spent (op : Op) (s : Session σ) :
    Spent s.entry.wait (if op.reaches s.entry then 1 else 0) (op.calls H s) := by
  cases kind : op.transacts with
  | true =>
    have calls := calls_of_transacts (H := H) kind s
    generalize op.calls H s = events at calls
    cases calls with
    | none silent =>
      rw [silent]
      exact .nil _
    | transaction reaches _ _ =>
      rw [reaches]
      exact .schedule _ _ (Host.retry_ne_nil 4 s.world) (Session.exchanges_bounds _ _ _).2
  | false =>
    have trace := trace_run (H := H) op s
    cases op with
    | send request =>
      rw [run, Prog.snd_bind_pure] at trace
      cases judged : checkRequest request with
      | error e =>
        rw [Session.send_refused judged] at trace
        rw [reaches_of_refused rfl judged, List.self_eq_append_right.mp trace]
        exact .nil _
      | ok =>
        rw [Session.send_accepted judged] at trace
        rw [reaches_of_ok rfl judged]
        generalize H.setFeature s.world (s.wire request) = call at trace
        rcases call with ⟨e | _, w⟩
        · rw [List.append_cancel_left trace.symm]
          exact .attempt (s.wire request) s.entry.wait (.setFailed e)
        · rw [List.append_cancel_left trace.symm]
          exact .single rfl (Nat.le_refl 1) (Nat.mul_one _).symm
    | transactRaw request =>
      rw [run, Prog.snd_bind_pure] at trace
      cases judged : checkRequest request with
      | error e =>
        rw [Session.transactRaw_refused judged] at trace
        rw [reaches_of_refused rfl judged, List.self_eq_append_right.mp trace]
        exact .nil _
      | ok =>
        rw [Session.transactRaw_accepted judged] at trace
        rw [reaches_of_ok rfl judged, List.append_cancel_left trace.symm]
        exact .attempt _ _ _
    | _ => cases kind

theorem history_spent (ops : List Op) (s : Session σ) :
    Spent s.entry.wait (ops.countP (reaches s.entry)) ((history H ops s).map Prod.snd).flatten := by
  induction ops generalizing s with
  | nil => exact .nil _
  | cons op rest ih =>
    have later := ih (op.run H s).2
    rw [entry_run] at later
    rw [List.countP_cons, Nat.add_comm]
    exact (calls_spent op s).append later

/-- The time a run sleeps, to the nanosecond, and what no device can draw it out beyond:
five waits and four pauses for each operation. -/
theorem time_slept (H : Host σ) (s : Session σ) (ops : List Op) :
    ∃ events, Session.Overheard s (Prog.runs (run H) ops s) (fun log => Prog.runs (run H.recorded) ops (s.tapped log)) events ∧
      let asked := ops.countP (reaches s.entry)
      (Duration.total (slept events)).nanos =
          s.entry.wait.nanos * delivered events + RETRY_DELAY.nanos * ((sent events).length - asked) ∧
        asked ≤ (sent events).length ∧ (sent events).length ≤ 5 * asked ∧
        (Duration.total (slept events)).nanos ≤ ops.length * (5 * s.entry.wait.nanos + 4 * RETRY_DELAY.nanos) := by
  refine ⟨_, history_overheard ops s, ?_⟩
  have spent := history_spent (H := H) ops s
  generalize ((history H ops s).map Prod.snd).flatten = events at spent
  have few : ops.countP (reaches s.entry) ≤ ops.length := List.countP_le_length
  generalize ops.countP (reaches s.entry) = asked at spent few
  have time := spent.time
  have least := spent.least
  have most : (sent events).length ≤ 5 * asked := spent.most
  have total : (Duration.total (slept events)).nanos =
      s.entry.wait.nanos * delivered events + RETRY_DELAY.nanos * ((sent events).length - asked) := by
    rw [Nat.mul_sub]
    have retried := Nat.mul_le_mul_left RETRY_DELAY.nanos least
    omega
  refine ⟨total, least, most, ?_⟩
  calc (Duration.total (slept events)).nanos
      = s.entry.wait.nanos * delivered events + RETRY_DELAY.nanos * ((sent events).length - asked) := total
    _ ≤ s.entry.wait.nanos * (5 * asked) + RETRY_DELAY.nanos * (4 * asked) :=
        Nat.add_le_add (Nat.mul_le_mul_left _ (spent.out.trans most)) (Nat.mul_le_mul_left _ (by omega))
    _ = asked * (5 * s.entry.wait.nanos + 4 * RETRY_DELAY.nanos) := by ring
    _ ≤ ops.length * (5 * s.entry.wait.nanos + 4 * RETRY_DELAY.nanos) := Nat.mul_le_mul_right _ few

end Op

end OpenRazer
