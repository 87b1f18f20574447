import OpenRazer.Transact

universe u

namespace OpenRazer

/-- The public operations of a session: three that take any report, and nine typed ones. -/
inductive Op
  | send (request : RazerReport)
  | transactRaw (request : RazerReport)
  | transact (request : RazerReport)
  | setDeviceMode (mode : DeviceMode)
  | getDeviceMode
  | firmwareVersion
  | serial
  | setBrightness (brightness : UInt8)
  | getBrightness
  | setStaticEffect (rgb : Rgb)
  | setPollRate (rate : PollRate)
  | getPollRate
deriving DecidableEq

inductive Reply
  | done
  | report (r : RazerReport)
  | pair (p : UInt8 × UInt8)
  | text (text : String)
  | byte (b : UInt8)
  | rate (rate : PollRate)
deriving DecidableEq

namespace Op

variable {σ : Type u} (H : Host σ)

def run : Op → SessionM σ Reply
  | .send request => do Session.send H request; pure .done
  | .transactRaw request => do return .report (← Session.transactRaw H request)
  | .transact request => do return .report (← Session.transact H request)
  | .setDeviceMode mode => do Session.setDeviceMode H mode; pure .done
  | .getDeviceMode => do return .pair (← Session.getDeviceMode H)
  | .firmwareVersion => do return .pair (← Session.firmwareVersion H)
  | .serial => do return .text (← Session.serial H)
  | .setBrightness brightness => do Session.setBrightness H brightness; pure .done
  | .getBrightness => do return .byte (← Session.getBrightness H)
  | .setStaticEffect rgb => do Session.setStaticEffect H rgb; pure .done
  | .setPollRate rate => do Session.setPollRate H rate; pure .done
  | .getPollRate => do return .rate (← Session.getPollRate H)

def typed : Op → Bool
  | .send _ | .transactRaw _ | .transact _ => false
  | _ => true

/-- What `require` answers for an entry. -/
def allowed (entry : DeviceEntry) (cap : Capabilities) (what : String) : Except HidError Unit :=
  if entry.capabilities.contains cap then .ok () else .error (.unsupported entry.pid what)

/-- What `led` answers for an entry. -/
def ledOf (entry : DeviceEntry) : Except HidError LedId :=
  match entry.defaultLed with
  | 0x00 => .ok .zero
  | 0x01 => .ok .scrollWheel
  | 0x04 => .ok .logo
  | 0x05 => .ok .backlight
  | _ => .error (.unsupported entry.pid "this LED id")

/-- The report an operation is about, or the reason it never gets one. -/
def request (entry : DeviceEntry) : Op → Except HidError RazerReport
  | .send request | .transactRaw request | .transact request => .ok request
  | .setDeviceMode mode => do
    allowed entry .DEVICE_MODE "device mode"
    return Cmd.setDeviceMode mode
  | .getDeviceMode => do
    allowed entry .DEVICE_MODE "device mode"
    return Cmd.getDeviceMode
  | .firmwareVersion => do
    allowed entry .FIRMWARE_VERSION "firmware version"
    return Cmd.getFirmwareVersion
  | .serial => do
    allowed entry .SERIAL "serial"
    return Cmd.getSerial
  | .setBrightness brightness => do
    allowed entry .BRIGHTNESS "brightness"
    return Cmd.setBrightness .varStore (← ledOf entry) brightness
  | .getBrightness => do
    allowed entry .BRIGHTNESS "brightness"
    return Cmd.getBrightness .varStore (← ledOf entry)
  | .setStaticEffect rgb => do
    allowed entry .STATIC_EFFECT "static effect"
    return Cmd.setStaticEffect .varStore (← ledOf entry) rgb
  | .setPollRate rate => do
    allowed entry .POLL_RATE "poll rate"
    match entry.pollRateKind with
    | .v2 => return Cmd.setPollRateV2 rate 0x00
    | .legacy => (Cmd.setPollRateLegacy rate).mapError .proto
  | .getPollRate => do
    allowed entry .POLL_RATE "poll rate"
    match entry.pollRateKind with
    | .v2 => return Cmd.getPollRateV2
    | .legacy => return Cmd.getPollRateLegacy

/-- Class and id of the command an operation issues. -/
def command (entry : DeviceEntry) : Op → UInt8 × UInt8
  | .send request | .transactRaw request | .transact request => (request.commandClass, request.commandId)
  | .setDeviceMode _ => (0x00, 0x04)
  | .getDeviceMode => (0x00, 0x84)
  | .firmwareVersion => (0x00, 0x81)
  | .serial => (0x00, 0x82)
  | .setBrightness _ => (0x0F, 0x04)
  | .getBrightness => (0x0F, 0x84)
  | .setStaticEffect _ => (0x0F, 0x02)
  | .setPollRate _ =>
    match entry.pollRateKind with
    | .v2 => (0x00, 0x40)
    | .legacy => (0x00, 0x05)
  | .getPollRate =>
    match entry.pollRateKind with
    | .v2 => (0x00, 0xC0)
    | .legacy => (0x00, 0x85)

/-- What a transaction's validated response becomes. -/
def reading (entry : DeviceEntry) (response : RazerReport) : Op → Except HidError Reply
  | .transactRaw _ | .transact _ => .ok (.report response)
  | .getDeviceMode => ((Parse.deviceMode response).mapError .proto).map .pair
  | .firmwareVersion => ((Parse.firmwareVersion response).mapError .proto).map .pair
  | .serial => ((Parse.serial response).mapError .proto).map .text
  | .getBrightness => ((Parse.brightness response).mapError .proto).map .byte
  | .getPollRate =>
    match entry.pollRateKind with
    | .v2 => ((Parse.pollRateV2 response).mapError .proto).map .rate
    | .legacy => ((Parse.pollRateLegacy response).mapError .proto).map .rate
  | _ => .ok .done

variable {H} {s : Session σ}

theorem require_apply (cap : Capabilities) (what : String) :
    (Session.require cap what : SessionM σ Unit) s = (allowed s.entry cap what, s) := by
  simp only [Session.require, Prog.bind_apply, Prog.read_apply, allowed]
  split <;> rfl

theorem led_apply : (Session.led : SessionM σ LedId) s = (ledOf s.entry, s) := by
  simp only [Session.led, Prog.bind_apply, Prog.read_apply, ledOf]
  generalize s.entry.defaultLed = led
  split <;> simp_all

/-- A transaction read by a typed operation. -/
def transacted (H : Host σ) (op : Op) (request : RazerReport) (s : Session σ) : Except HidError Reply × Session σ :=
  let call := Session.transact H request s
  (call.1.bind (op.reading s.entry ·), call.2)

theorem transacted_of_ok {op : Op} {request r : RazerReport} {t : Session σ}
    (played : Session.transact H request s = (.ok r, t)) :
    op.transacted H request s = (op.reading s.entry r, t) := by
  simp only [transacted, played]
  rfl

theorem transacted_of_error {op : Op} {request : RazerReport} {e : HidError} {t : Session σ}
    (played : Session.transact H request s = (.error e, t)) : op.transacted H request s = (.error e, t) := by
  simp only [transacted, played]
  rfl

/-- A setter's body: the response is dropped once it is validated. -/
theorem run_setter {op : Op} {request : RazerReport} (drops : ∀ r, op.reading s.entry r = .ok .done) :
    (do let _ ← Session.transact H request; pure Reply.done : SessionM σ Reply) s = op.transacted H request s := by
  rcases played : Session.transact H request s with ⟨e | r, t⟩
  · rw [Prog.bind_of_error played, transacted_of_error played]
  · rw [Prog.bind_of_ok played, transacted_of_ok played, drops, Prog.pure_apply]

/-- A getter's body: the response is parsed. -/
theorem run_getter {op : Op} {request : RazerReport} {α : Type} {parse : RazerReport → Except ProtoError α}
    {wrap : α → Reply} (reads : ∀ r, op.reading s.entry r = ((parse r).mapError .proto).map wrap) :
    (do
      let response ← Session.transact H request
      let value ← .lift ((parse response).mapError .proto)
      pure (wrap value) : SessionM σ Reply) s = op.transacted H request s := by
  rcases played : Session.transact H request s with ⟨e | r, t⟩
  · rw [Prog.bind_of_error played, transacted_of_error played]
  · rw [Prog.bind_of_ok played, transacted_of_ok played, reads]
    rcases parse r with e | value <;> rfl

/-- A capability guard in front of a method is one in front of its request. -/
theorem run_required {op : Op} {cap : Capabilities} {what : String} {body : SessionM σ Reply}
    {asked : Except HidError RazerReport}
    (below : body s = match asked with
      | .error e => (.error e, s)
      | .ok request => op.transacted H request s) :
    (do Session.require cap what; body : SessionM σ Reply) s =
      match (do allowed s.entry cap what; asked) with
      | .error e => (.error e, s)
      | .ok request => op.transacted H request s := by
  rw [Prog.bind_of_guard (require_apply cap what)]
  rcases allowed s.entry cap what with e | _
  · rfl
  · exact below

/-- So is looking up the LED. -/
theorem run_lit {op : Op} {body : LedId → SessionM σ Reply} {make : LedId → RazerReport}
    (below : ∀ led, body led s = op.transacted H (make led) s) :
    (do let led ← Session.led; body led : SessionM σ Reply) s =
      match (do return make (← ledOf s.entry) : Except HidError RazerReport) with
      | .error e => (.error e, s)
      | .ok request => op.transacted H request s := by
  rw [Prog.bind_of_guard led_apply]
  rcases ledOf s.entry with e | led
  · rfl
  · exact below led

/-- Every typed operation is its guards, then one transaction, then its parser. -/
theorem run_typed {op : Op} (typed : op.typed = true) : op.run H s =
    match op.request s.entry with
    | .error e => (.error e, s)
    | .ok request => op.transacted H request s := by
  cases op with
  | send _ | transactRaw _ | transact _ => cases typed
  | setDeviceMode mode =>
    simp only [run, Session.setDeviceMode, bind_assoc, pure_bind]
    exact run_required (run_setter fun _ => rfl)
  | getDeviceMode =>
    simp only [run, Session.getDeviceMode, bind_assoc]
    exact run_required (run_getter fun _ => rfl)
  | firmwareVersion =>
    simp only [run, Session.firmwareVersion, bind_assoc]
    exact run_required (run_getter fun _ => rfl)
  | serial =>
    simp only [run, Session.serial, bind_assoc]
    exact run_required (run_getter fun _ => rfl)
  | setBrightness brightness =>
    simp only [run, Session.setBrightness, bind_assoc, pure_bind]
    exact run_required (run_lit fun led => run_setter fun _ => rfl)
  | getBrightness =>
    simp only [run, Session.getBrightness, bind_assoc]
    exact run_required (run_lit fun led => run_getter fun _ => rfl)
  | setStaticEffect rgb =>
    simp only [run, Session.setStaticEffect, bind_assoc, pure_bind]
    exact run_required (run_lit fun led => run_setter fun _ => rfl)
  | setPollRate rate =>
    simp only [run, Session.setPollRate, bind_assoc, pure_bind]
    refine run_required ?_
    rw [Prog.bind_of_guard (Prog.read_apply _ _)]
    cases s.entry.pollRateKind with
    | v2 =>
      simp only [bind_assoc, pure_bind]
      exact run_setter fun _ => rfl
    | legacy =>
      simp only [bind_assoc, pure_bind]
      rw [Prog.bind_of_guard (Prog.lift_apply _ _)]
      rcases Cmd.setPollRateLegacy rate with e | request
      · rfl
      · exact run_setter fun _ => rfl
  | getPollRate =>
    simp only [run, Session.getPollRate, bind_assoc]
    refine run_required ?_
    rw [Prog.bind_of_guard (Prog.read_apply _ _)]
    cases kind : s.entry.pollRateKind with
    | v2 =>
      simp only [bind_assoc]
      exact run_getter fun _ => by simp only [reading, kind]
    | legacy =>
      simp only [bind_assoc]
      exact run_getter fun _ => by simp only [reading, kind]

/-- A guard passes on what follows it, or refuses in its own words. -/
theorem allowed_then (entry : DeviceEntry) (cap : Capabilities) (what : String) (asked : Except HidError RazerReport) :
    (do allowed entry cap what; asked) =
      if entry.capabilities.contains cap then asked else .error (.unsupported entry.pid what) := by
  unfold allowed
  split <;> rfl

theorem ledOf_then (entry : DeviceEntry) (make : LedId → RazerReport) :
    (∃ led, (do return make (← ledOf entry) : Except HidError RazerReport) = .ok (make led)) ∨
      (do return make (← ledOf entry) : Except HidError RazerReport) = .error (.unsupported entry.pid "this LED id") := by
  have known : (∃ led, ledOf entry = .ok led) ∨ ledOf entry = .error (.unsupported entry.pid "this LED id") := by
    unfold ledOf
    split <;> simp
  rcases known with ⟨led, found⟩ | unknown
  · exact Or.inl ⟨led, by rw [found]; rfl⟩
  · exact Or.inr (by rw [unknown]; rfl)

theorem asked_of_guarded {entry : DeviceEntry} {cap : Capabilities} {what : String} {asked : Except HidError RazerReport}
    {request : RazerReport} (asks : (do allowed entry cap what; asked) = .ok request) : asked = .ok request := by
  rw [allowed_then] at asks
  split at asks
  · exact asks
  · cases asks

/-- The typed operations only build reports the outbound check accepts. -/
theorem request_typed {entry : DeviceEntry} {op : Op} {request : RazerReport} (typed : op.typed = true)
    (asks : op.request entry = .ok request) :
    checkRequest request = .ok () ∧ request.status = .new ∧
      (request.commandClass, request.commandId) = op.command entry := by
  have lit {make : LedId → RazerReport} (asks : (do return make (← ledOf entry)) = .ok request) :
      ∃ led, make led = request := by
    rcases ledOf_then entry make with ⟨led, found⟩ | unknown
    · exact ⟨led, Except.ok.inj (found.symm.trans asks)⟩
    · rw [unknown] at asks
      cases asks
  cases op with
  | send _ | transactRaw _ | transact _ => cases typed
  | setDeviceMode _ | getDeviceMode | firmwareVersion | serial =>
    obtain rfl := Except.ok.inj (asked_of_guarded asks)
    exact ⟨rfl, rfl, rfl⟩
  | setBrightness _ | getBrightness | setStaticEffect _ =>
    obtain ⟨led, rfl⟩ := lit (asked_of_guarded asks)
    exact ⟨rfl, rfl, rfl⟩
  | setPollRate rate =>
    have chosen := asked_of_guarded asks
    cases kind : entry.pollRateKind with
    | v2 =>
      rw [kind] at chosen
      obtain rfl := Except.ok.inj chosen
      exact ⟨rfl, rfl, by simp only [command, kind]; rfl⟩
    | legacy =>
      rw [kind] at chosen
      cases code : rate.legacyCode with
      | none => simp [Cmd.setPollRateLegacy, code, Except.mapError] at chosen
      | some code' =>
        simp only [Cmd.setPollRateLegacy, code, Except.mapError, Except.ok.injEq] at chosen
        obtain rfl := chosen
        exact ⟨rfl, rfl, by simp only [command, kind]; rfl⟩
  | getPollRate =>
    have chosen := asked_of_guarded asks
    cases kind : entry.pollRateKind with
    | v2 | legacy =>
      rw [kind] at chosen
      obtain rfl := Except.ok.inj chosen
      exact ⟨rfl, rfl, by simp only [command, kind]; rfl⟩

/-- A typed operation is its transaction, to whoever listens. -/
theorem run_typed_overheard {op : Op} (typed : op.typed = true) {request : RazerReport} (asks : op.request s.entry = .ok request) :
    Session.Overheard s (op.run H s) (fun log => op.run H.recorded (s.tapped log))
      (schedule (s.wire request) s.entry.wait (Session.exchanges H request s).1) := by
  have here := (Session.transact_overheard (H := H) (s := s) (request_typed typed asks).1).map fun r => r.bind (op.reading s.entry ·)
  have asked (log : List Event) : op.run H.recorded (s.tapped log) = op.transacted H.recorded request (s.tapped log) := by
    rw [run_typed typed, show op.request (s.tapped log).entry = .ok request from asks]
  rw [run_typed typed, asks]
  simp only [asked]
  exact here

/-- The trace of an operation is what a recorder between it and its device hears. -/
theorem run_overheard (op : Op) (s : Session σ) :
    ∃ events, Session.Overheard s (op.run H s) (fun log => op.run H.recorded (s.tapped log)) events := by
  cases kind : op.typed with
  | true =>
    cases asks : op.request s.entry with
    | ok request => exact ⟨_, run_typed_overheard kind asks⟩
    | error e =>
      have refused (log : List Event) : op.run H.recorded (s.tapped log) = (.error e, s.tapped log) := by
        rw [run_typed kind, show op.request (s.tapped log).entry = .error e from asks]
      rw [run_typed kind, asks]
      simp only [refused]
      exact ⟨[], Session.overheard_nothing s _⟩
  | false =>
    cases op with
    | send request =>
      obtain ⟨events, heard⟩ := Session.send_overheard (H := H) request s
      simp only [run, Prog.bind_pure_apply]
      exact ⟨events, heard.map _⟩
    | transactRaw request =>
      obtain ⟨events, heard⟩ := Session.transactRaw_overheard (H := H) request s
      simp only [run, Prog.bind_pure_apply]
      exact ⟨events, heard.map _⟩
    | transact request =>
      simp only [run, Prog.bind_pure_apply]
      cases judged : checkRequest request with
      | error e => exact ⟨[], (Session.overheard_refused judged).map _⟩
      | ok => exact ⟨_, (Session.transact_overheard judged).map _⟩
    | _ => cases kind

/-- So is the trace of a run. -/
theorem runs_overheard (ops : List Op) (s : Session σ) :
    ∃ events, Session.Overheard s (Prog.runs (run H) ops s) (fun log => Prog.runs (run H.recorded) ops (s.tapped log)) events := by
  induction ops generalizing s with
  | nil => exact ⟨[], Session.overheard_nothing s _⟩
  | cons op rest ih =>
    obtain ⟨first, trace, here⟩ := run_overheard (H := H) op s
    obtain ⟨second, later, after⟩ := ih (op.run H s).2
    refine ⟨first ++ second, ?_, fun log => ?_⟩
    · rw [← List.append_assoc, ← trace]
      exact later
    · have next := after (log ++ first)
      simp only [Prog.runs, here log, List.append_assoc] at next ⊢
      rw [next]

end Op

end OpenRazer
