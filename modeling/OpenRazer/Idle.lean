import OpenRazer.Hidraw
import OpenRazer.Operations

universe u

namespace OpenRazer

/-- One reading from a device, as `razerd info` classifies it. -/
inductive Reading (α : Type)
  | value (v : α)
  | receiverIdle
  | failed (message : String)
deriving DecidableEq

def Reading.classify {α : Type} : Except HidError α → Reading α
  | .ok v => .value v
  | .error e => if e.isReceiverIdle then .receiverIdle else .failed e.toString

theorem Reading.classify_idle {α : Type} {result : Except HidError α} :
    classify result = .receiverIdle ↔ ∃ e, result = .error e ∧ e.isReceiverIdle = true := by
  cases result with
  | ok v => simp [classify]
  | error e => simp [classify]

/-- The device said, about this request, that it has nobody to relay to. -/
def Attempt.Idle (request : RazerReport) (a : Attempt) : Prop :=
  ∃ r, a.response = some r ∧ RoutesTo request r ∧ r.status = .timeout

namespace Host

variable {σ : Type u} {H : Host σ} {request : RazerReport} {wait : Duration} {buf : Frame}

/-- What the device answers to a frame sent `n` times over, 10 ms apart,
whether or not anybody would ask that often. -/
def rounds (H : Host σ) (wait : Duration) (buf : Frame) : Nat → σ → List Attempt
  | 0, _ => []
  | n + 1, w =>
    let here := H.exchange wait buf w
    here.1 :: rounds H wait buf n (H.sleep here.2 RETRY_DELAY)

theorem rounds_forall {P : Attempt → Prop} (each : ∀ w, P (H.exchange wait buf w).1) (n : Nat) (w : σ) :
    ∀ a ∈ H.rounds wait buf n w, P a := by
  induction n generalizing w with
  | zero => exact nofun
  | succ n ih => exact List.forall_mem_cons.mpr ⟨each w, ih _⟩

/-- While every answer is rejected the retry loop asks again. -/
theorem retry_eq_rounds (n : Nat) (w : σ)
    (rejected : ∀ a ∈ (H.rounds wait buf (n + 1) w).dropLast, (a.rejection request).isSome) :
    (H.retry request wait buf n w).1 = H.rounds wait buf (n + 1) w := by
  induction n generalizing w with
  | zero => rfl
  | succ n ih =>
    have more : H.rounds wait buf (n + 1) (H.sleep (H.exchange wait buf w).2 RETRY_DELAY) ≠ [] := by
      simp [rounds]
    have split : (H.rounds wait buf (n + 2) w).dropLast = (H.exchange wait buf w).1 ::
        (H.rounds wait buf (n + 1) (H.sleep (H.exchange wait buf w).2 RETRY_DELAY)).dropLast :=
      List.dropLast_cons_of_ne_nil more
    rw [split] at rejected
    rw [retry_again (rejected _ (List.mem_cons_self ..))]
    exact congrArg _ (ih _ fun a member => rejected a (List.mem_cons_of_mem _ member))

/-- A loop that used up its attempts asked every time. -/
theorem retry_used_up (n : Nat) (w : σ) (full : (H.retry request wait buf n w).1.length = n + 1) :
    (H.retry request wait buf n w).1 = H.rounds wait buf (n + 1) w := by
  induction n generalizing w with
  | zero => rfl
  | succ n ih =>
    by_cases again : ((H.exchange wait buf w).1.rejection request).isSome
    · rw [retry_again again] at full ⊢
      exact congrArg _ (ih _ (Nat.succ_inj.mp full))
    · rw [retry_settled again] at full
      simp at full

end Host

theorem Attempt.events_ne_nil (buf : Frame) (wait : Duration) (a : Attempt) : a.events buf wait ≠ [] := by
  cases a <;> exact List.cons_ne_nil _ _

/-- One block of a schedule can be told from the next. -/
theorem Attempt.events_append {buf : Frame} {wait : Duration} {a b : Attempt} {rest rest' : List Event}
    (same : a.events buf wait ++ rest = b.events buf wait ++ rest') : a = b ∧ rest = rest' := by
  cases a <;> cases b <;> simp_all [events] <;> omega

/-- The calls of a transaction determine its attempts. -/
theorem schedule_injective {buf : Frame} {wait : Duration} {first second : List Attempt}
    (same : schedule buf wait first = schedule buf wait second) : first = second := by
  have block (a : Attempt) (rest : List Attempt) : ∃ tail, schedule buf wait (a :: rest) = a.events buf wait ++ tail ∧
      (rest = [] ∧ tail = [] ∨ rest ≠ [] ∧ tail = .sleep RETRY_DELAY :: schedule buf wait rest) := by
    by_cases more : rest = []
    · subst rest
      exact ⟨[], by rw [schedule_single, List.append_nil], Or.inl ⟨rfl, rfl⟩⟩
    · exact ⟨_, schedule_cons buf wait a more, Or.inr ⟨more, rfl⟩⟩
  have visible (a : Attempt) (rest : List Attempt) : schedule buf wait (a :: rest) ≠ [] := by
    obtain ⟨tail, starts, _⟩ := block a rest
    rw [starts]
    exact List.append_ne_nil_of_left_ne_nil (a.events_ne_nil buf wait) tail
  induction first generalizing second with
  | nil =>
    cases second with
    | nil => rfl
    | cons b rest' => exact absurd same.symm (visible b rest')
  | cons a rest ih =>
    cases second with
    | nil => exact absurd same (visible a rest)
    | cons b rest' =>
      obtain ⟨tail, starts, ends⟩ := block a rest
      obtain ⟨tail', starts', ends'⟩ := block b rest'
      rw [starts, starts'] at same
      obtain ⟨rfl, tails⟩ := Attempt.events_append same
      rcases ends with ⟨rfl, rfl⟩ | ⟨more, rfl⟩
      · rcases ends' with ⟨rfl, rfl⟩ | ⟨_, rfl⟩
        · rfl
        · exact absurd tails.symm (List.cons_ne_nil _ _)
      · rcases ends' with ⟨rfl, rfl⟩ | ⟨_, rfl⟩
        · exact absurd tails (List.cons_ne_nil _ _)
        · exact congrArg _ (ih (List.cons_eq_cons.mp tails).2)

/-- Five answers to one frame, all of them rejected, the last one "idle" and
some earlier one something else. -/
def Host.EndsIdle {σ : Type u} (H : Host σ) (request : RazerReport) (wait : Duration) (buf : Frame) (w : σ) : Prop :=
  (∀ a ∈ (H.rounds wait buf 5 w).dropLast, (a.rejection request).isSome) ∧
    (∃ last, (H.rounds wait buf 5 w).getLast? = some last ∧
      last.rejection request = some (.deviceStatus .timeout)) ∧
    ∃ a ∈ H.rounds wait buf 5 w, ¬a.Idle request

namespace Op

variable {σ : Type u} {H : Host σ} {s : Session σ}

/-- The operation made five attempts, and every one of them was answered "idle". -/
def ConsistentlyIdle (H : Host σ) (op : Op) (s : Session σ) : Prop :=
  ∃ request attempts, op.request s.entry = .ok request ∧ attempts.length = 5 ∧
    (op.run H s).2.trace = s.trace ++ schedule (s.wire request) s.entry.wait attempts ∧
    ∀ a ∈ attempts, a.Idle request

/-- An idle verdict, as an error or as a reading, is only given on a device that kept saying so. -/
def IdleVerdictSound (H : Host σ) (op : Op) (s : Session σ) : Prop :=
  (∀ e, (op.run H s).1 = .error e → e.isReceiverIdle = true → ConsistentlyIdle H op s) ∧
    (Reading.classify (op.run H s).1 = .receiverIdle → ConsistentlyIdle H op s)

/-- The guards and constructors refuse without a device status. -/
theorem request_error {entry : DeviceEntry} {op : Op} {e : HidError} (refused : op.request entry = .error e) :
    e.isReceiverIdle = false := by
  have guarded {cap : Capabilities} {what : String} {asked : Except HidError RazerReport}
      (refused : (do allowed entry cap what; asked) = .error e) : asked = .error e ∨ e.isReceiverIdle = false := by
    rw [allowed_then] at refused
    split at refused
    · exact Or.inl refused
    · obtain rfl := Except.error.inj refused
      exact Or.inr rfl
  have unlit {make : LedId → RazerReport} (refused : (do return make (← ledOf entry)) = .error e) :
      e.isReceiverIdle = false := by
    rcases ledOf_then entry make with ⟨led, found⟩ | unknown
    · rw [found] at refused
      cases refused
    · rw [unknown] at refused
      obtain rfl := Except.error.inj refused
      rfl
  cases op with
  | send _ | transactRaw _ | transact _ => cases refused
  | setDeviceMode _ | getDeviceMode | firmwareVersion | serial =>
    rcases guarded refused with built | done
    · cases built
    · exact done
  | setBrightness _ | getBrightness | setStaticEffect _ =>
    rcases guarded refused with chosen | done
    · exact unlit chosen
    · exact done
  | setPollRate rate =>
    rcases guarded refused with chosen | done
    · cases kind : entry.pollRateKind with
      | v2 =>
        rw [kind] at chosen
        cases chosen
      | legacy =>
        rw [kind] at chosen
        cases code : rate.legacyCode with
        | none =>
          simp only [Cmd.setPollRateLegacy, code, Except.mapError, Except.error.injEq] at chosen
          subst chosen
          rfl
        | some code' => simp [Cmd.setPollRateLegacy, code, Except.mapError] at chosen
    · exact done
  | getPollRate =>
    rcases guarded refused with chosen | done
    · cases kind : entry.pollRateKind with
      | v2 | legacy =>
        rw [kind] at chosen
        cases chosen
    · exact done

/-- Neither do the parsers. -/
theorem reading_error {entry : DeviceEntry} {r : RazerReport} {op : Op} {e : HidError}
    (unread : op.reading entry r = .error e) : e.isReceiverIdle = false := by
  have malformed {α : Type} {wrap : α → Reply} {parsed : Except ProtoError α}
      (complains : ∀ p, parsed = .error p → ∃ what, p = .malformed what)
      (unread : ((parsed.mapError HidError.proto).map wrap) = .error e) : e.isReceiverIdle = false := by
    cases parsed with
    | ok v => cases unread
    | error p =>
      obtain ⟨what, rfl⟩ := complains p rfl
      obtain rfl := Except.error.inj unread
      rfl
  cases op with
  | serial =>
    refine malformed (fun p failed => ?_) unread
    unfold Parse.serial at failed
    simp only at failed
    split at failed
    · cases failed
    · exact ⟨_, (Except.error.inj failed).symm⟩
  | getPollRate =>
    unfold reading at unread
    simp only at unread
    split at unread
    · refine malformed (fun p failed => ?_) unread
      unfold Parse.pollRateV2 at failed
      split at failed
      · cases failed
      · exact ⟨_, (Except.error.inj failed).symm⟩
    · refine malformed (fun p failed => ?_) unread
      unfold Parse.pollRateLegacy at failed
      split at failed
      · cases failed
      · exact ⟨_, (Except.error.inj failed).symm⟩
  | _ => cases unread

theorem run_ok {op : Op} {request : RazerReport} (typed : op.typed = true) (asks : op.request s.entry = .ok request) :
    op.run H s = op.transacted H request s := by
  rw [run_typed typed, asks]

/-- The only way to an idle verdict is an idle last attempt. -/
theorem idle_exchanges (law : H.Lawful) {op : Op} (typed : op.typed = true) {e : HidError}
    (failed : (op.run H s).1 = .error e) (idle : e.isReceiverIdle = true) :
    ∃ request a, op.request s.entry = .ok request ∧
      (Session.exchanges H request s).1.getLast? = some a ∧ a.rejection request = some (.deviceStatus .timeout) := by
  rw [run_typed typed] at failed
  cases asks : op.request s.entry with
  | error refusal =>
    rw [asks] at failed
    obtain rfl := Except.error.inj failed
    rw [request_error asks] at idle
    cases idle
  | ok request =>
    obtain ⟨accepted, _⟩ := request_typed typed asks
    obtain ⟨a, last⟩ := Session.exchanges_last H request s
    simp only [asks, transacted, Session.transact_accepted accepted, Session.outcome_last last] at failed
    refine ⟨request, a, rfl, last, ?_⟩
    cases judged : a.rejection request with
    | some complaint =>
      rw [judged] at failed
      obtain rfl := Except.error.inj failed
      rcases HidError.isReceiverIdle_iff.mp idle with same | same
      · rw [HidError.retriesExhausted.inj same]
      · cases same
    | none =>
      rw [judged] at failed
      cases fault : a.fault with
      | some ioError =>
        obtain ⟨_, result⟩ := Attempt.of_fault request fault
        rw [result] at failed
        obtain rfl := Except.error.inj failed
        obtain ⟨op, errno, rfl⟩ := Host.retry_forall (P := fun a => a.fault = some ioError → ∃ op errno, ioError = .io op errno)
          (fun w faulted => law.exchange_fault w faulted) 4 s.world a (List.mem_of_getLast? last) fault
        cases idle
      | none =>
        cases a with
        | setFailed _ | getFailed _ _ => cases fault
        | short got reply cut =>
          obtain rfl := Except.error.inj failed
          cases idle
        | answered got reply complete =>
          rw [reading_error failed] at idle
          cases idle

theorem unsound_of_endsIdle {op : Op} (typed : op.typed = true) {request : RazerReport}
    (asks : op.request s.entry = .ok request) (ends : H.EndsIdle request s.entry.wait (s.wire request) s.world) :
    ¬IdleVerdictSound H op s := by
  rintro ⟨sound, _⟩
  obtain ⟨rejected, ⟨a, last, idle⟩, other, member, different⟩ := ends
  obtain ⟨accepted, _⟩ := request_typed typed asks
  have played : (Session.exchanges H request s).1 = H.rounds s.entry.wait (s.wire request) 5 s.world :=
    Host.retry_eq_rounds 4 s.world rejected
  have failed : (op.run H s).1 = .error (.retriesExhausted (.deviceStatus .timeout)) := by
    rw [run_ok typed asks, transacted, Session.transact_accepted accepted]
    simp only [played, Session.outcome_last last, idle]
    rfl
  obtain ⟨request', attempts, asks', _, trace, all⟩ := sound _ failed rfl
  obtain rfl : request = request' := Except.ok.inj (asks.symm.trans asks')
  have trace' : (op.run H s).2.trace = s.trace ++ schedule (s.wire request) s.entry.wait
      (H.rounds s.entry.wait (s.wire request) 5 s.world) := by
    rw [run_ok typed asks, transacted, Session.transact_accepted accepted, ← played]
  have same := schedule_injective (List.append_cancel_left (trace.symm.trans trace'))
  exact different (all other (same ▸ member))

/-- Only the fifth error is kept, so a verdict is sound exactly when the device
does not change its mind: not when five answers in a row are rejected and the
last one alone, or the last few, say "idle". -/
theorem idle_verdict_sound_iff (law : H.Lawful) {op : Op} (typed : op.typed = true) (s : Session σ) :
    IdleVerdictSound H op s ↔
      ∀ request, op.request s.entry = .ok request → ¬H.EndsIdle request s.entry.wait (s.wire request) s.world := by
  constructor
  · intro sound request asks ends
    exact unsound_of_endsIdle typed asks ends sound
  · intro steady
    have sound (e : HidError) (failed : (op.run H s).1 = .error e) (idle : e.isReceiverIdle = true) :
        ConsistentlyIdle H op s := by
      obtain ⟨request, a, asks, last, final⟩ := idle_exchanges law typed failed idle
      obtain ⟨accepted, _⟩ := request_typed typed asks
      have full : (Session.exchanges H request s).1.length = 5 :=
        Host.retry_exhausted 4 s.world last (Option.isSome_of_eq_some final)
      have played : (Session.exchanges H request s).1 = H.rounds s.entry.wait (s.wire request) 5 s.world :=
        Host.retry_used_up 4 s.world full
      have earlier : ∀ b ∈ (Session.exchanges H request s).1.dropLast, (b.rejection request).isSome :=
        Host.retry_rejected 4 s.world
      refine ⟨request, (Session.exchanges H request s).1, asks, full, ?_, ?_⟩
      · rw [run_ok typed asks, transacted, Session.transact_accepted accepted]
      · intro b member
        by_contra different
        refine steady request asks ⟨?_, ⟨a, ?_, final⟩, b, ?_, different⟩
        · rw [← played]
          exact earlier
        · rw [← played]
          exact last
        · rw [← played]
          exact member
    refine ⟨sound, fun classified => ?_⟩
    obtain ⟨e, failed, idle⟩ := Reading.classify_idle.mp classified
    exact sound e failed idle

/-- A receiver whose mouse is on its cable: it times out on everything. -/
def unpaired : Kernel where
  names _ := .ok []
  interfaceInfo _ _ := .ok none
  node _ _ := none
  openErrno _ _ := none
  rawInfoErrno _ := none
  setFeature _ _ _ := .ok ()
  getFeature _ _ _ := (.ok 91, hidrawBuf { Cmd.getFirmwareVersion with status := .timeout })

def receiver : HidrawDevice where
  file := ⟨0x03, 0x1532, 0x00AB, some (0, 0x02)⟩
  path := "/dev/hidraw5"

/-- It is called idle, after five timeouts. -/
theorem idle_verdict_sound_unpaired :
    Reading.classify (Op.firmwareVersion.run (unpaired.host TABLE[1] receiver) (Session.new TABLE[1] {})).1 = .receiverIdle ∧
      IdleVerdictSound (unpaired.host TABLE[1] receiver) .firmwareVersion (Session.new TABLE[1] {}) := by
  refine ⟨by decide +kernel, (idle_verdict_sound_iff (unpaired.host_lawful TABLE[1] receiver) rfl _).mpr ?_⟩
  rintro request asks ⟨_, _, b, member, different⟩
  obtain rfl := Except.ok.inj asks
  let timeout := RazerReport.fromBytes (hidrawBuf { Cmd.getFirmwareVersion with status := .timeout }).report
  have idle : RoutesTo Cmd.getFirmwareVersion timeout ∧ timeout.status = .timeout := by decide +kernel
  exact different (Host.rounds_forall (P := Attempt.Idle Cmd.getFirmwareVersion) (fun _ => ⟨timeout, rfl, idle⟩) 5 _ b member)

/-- A receiver that refuses a request four times and times out on the fifth. -/
def wavering : Mock :=
  let answer (status : Status) : RazerReport := { Cmd.getFirmwareVersion with status := status }
  let refused (m : Mock) := m.pushResponse (answer .failure)
  (refused (refused (refused (refused {})))).pushResponse (answer .timeout)

/-- One timeout is enough for an idle verdict if it comes last. -/
theorem one_timeout_reads_idle : ¬IdleVerdictSound Mock.host .firmwareVersion (Session.new TABLE[1] wavering) := by
  refine unsound_of_endsIdle rfl rfl ⟨?_, ⟨_, rfl, rfl⟩, ?_⟩
  · decide
  · refine ⟨_, List.mem_cons_self .., ?_⟩
    rintro ⟨r, response, _, status⟩
    obtain rfl := Option.some.inj response
    revert status
    decide

end Op

end OpenRazer
