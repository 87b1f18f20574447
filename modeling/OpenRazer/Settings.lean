import Mathlib.Logic.Function.Basic
import OpenRazer.Stamp

universe u

namespace OpenRazer

/-- Argument bytes by command class and SET id. -/
abbrev Registers := UInt8 × UInt8 → Option Arguments

/-- A SET stores its argument bytes, a GET stores nothing. -/
def Registers.receive (registers : Registers) (r : RazerReport) : Registers :=
  if r.isGet then registers else Function.update registers (r.commandClass, r.commandId) (some r.arguments)

/-- The register a GET reads: the id of its SET is its own without bit 7. -/
def RazerReport.register (r : RazerReport) : UInt8 × UInt8 :=
  (r.commandClass, r.commandId &&& 0x7F)

/-- A device that accepts every request and answers a GET with the arguments of the last SET. -/
structure Host.Remembers {σ : Type u} (H : Host σ) (registers : σ → Registers) (pending : σ → Option RazerReport) :
    Prop where
  setFeature : ∀ w buf, (H.setFeature w buf).1 = .ok () ∧
    registers (H.setFeature w buf).2 = (registers w).receive (RazerReport.fromBytes (Frame.report buf)) ∧
    pending (H.setFeature w buf).2 = some (RazerReport.fromBytes (Frame.report buf))
  sleep : ∀ w d, registers (H.sleep w d) = registers w ∧ pending (H.sleep w d) = pending w
  -- No response is accepted for a request whose payload cannot fit.
  getFeature : ∀ w buf request, pending w = some request → request.dataSize.toNat ≤ 80 →
    ∃ got reply w', H.getFeature w buf = (.ok got, reply, w') ∧ 91 ≤ got ∧ registers w' = registers w ∧
      checkResponse request (RazerReport.fromBytes (Frame.report reply)) = .ok () ∧
      (request.isGet = true → ∀ args, registers w request.register = some args →
        (RazerReport.fromBytes (Frame.report reply)).arguments = args)

namespace Host.Remembers

variable {σ : Type u} {H : Host σ} {registers : σ → Registers} {pending : σ → Option RazerReport}
  {request : RazerReport} {s : Session σ}

/-- On such a device a transaction needs one attempt. -/
theorem transact (device : H.Remembers registers pending) (accepted : checkRequest request = .ok ())
    (new : request.status = .new) (s : Session σ) :
    ∃ r, (Session.transact H request s).1 = .ok r ∧
      registers (Session.transact H request s).2.world = (registers s.world).receive request ∧
      (request.isGet = true → ∀ args, registers s.world request.register = some args → r.arguments = args) := by
  obtain ⟨small, _, _⟩ := checkRequest_ok_iff.mp accepted
  have canonical : (request.withTransactionId s.transactionId).status.Canonical := by
    change request.status.Canonical
    rw [new]
    trivial
  have decoded : RazerReport.fromBytes (Frame.report (s.wire request)) =
      { request.withTransactionId s.transactionId with
        crc := crc (request.withTransactionId s.transactionId).toBytes } := by
    rw [Session.wire, report_hidrawBuf, RazerReport.fromBytes_toBytes canonical]
  obtain ⟨taken, stored, waiting⟩ := device.setFeature s.world (s.wire request)
  obtain ⟨kept, still⟩ := device.sleep (H.setFeature s.world (s.wire request)).2 s.entry.wait
  rw [decoded] at stored waiting
  obtain ⟨got, reply, w, answer, complete, unchanged, accepts, recalls⟩ :=
    device.getFeature _ (Vector.replicate 91 0) _ (still.trans waiting) small
  have exchanged : H.exchange s.entry.wait (s.wire request) s.world = (.answered got reply complete, w) := by
    have call : H.setFeature s.world (s.wire request) = (.ok (), (H.setFeature s.world (s.wire request)).2) :=
      Prod.ext taken rfl
    rw [Host.exchange, call]
    simp only [answer]
    rw [dif_neg (by omega)]
  have judged : checkResponse request (RazerReport.fromBytes (Frame.report reply)) = .ok () := accepts
  have settled : ¬((H.exchange s.entry.wait (s.wire request) s.world).1.rejection request).isSome := by
    simp [exchanged, Attempt.rejection, Attempt.response, judged]
  refine ⟨RazerReport.fromBytes (Frame.report reply), ?_, ?_, ?_⟩
  · simp only [Session.transact_accepted accepted, Session.exchanges, Host.retry_settled settled, exchanged,
      outcome, List.getLast?_singleton, Attempt.rejection, Attempt.response, Option.map_some, judged, Attempt.result]
  · simp only [Session.transact_accepted accepted, Session.exchanges, Host.retry_settled settled, exchanged]
    rw [unchanged, kept, stored]
    rfl
  · intro get args known
    have untouched : registers (H.sleep (H.setFeature s.world (s.wire request)).2 s.entry.wait) =
        registers s.world := by
      rw [kept, stored]
      exact if_pos get
    refine recalls get args ?_
    rw [untouched]
    exact known

/-- What a typed operation does to the registers and what it reads from them. -/
theorem run (device : H.Remembers registers pending) {op : Op} (typed : op.typed = true)
    (asks : op.request s.entry = .ok request) :
    ∃ r, (op.run H s).1 = op.reading s.entry r ∧
      registers (op.run H s).2.world = (registers s.world).receive request ∧
      (request.isGet = true → ∀ args, registers s.world request.register = some args → r.arguments = args) := by
  obtain ⟨accepted, new, _⟩ := Op.request_typed typed asks
  obtain ⟨r, result, stored, recalls⟩ := device.transact accepted new s
  refine ⟨r, ?_, ?_, recalls⟩
  · rw [Op.run_typed typed, asks]
    simp only [Op.transacted, result]
    rfl
  · rw [Op.run_typed typed, asks]
    exact stored

/-- An operation with another command leaves a register alone, supported or not. -/
theorem run_keeps (device : H.Remembers registers pending) {op : Op} (typed : op.typed = true) {key : UInt8 × UInt8}
    (other : op.command s.entry ≠ key) : registers (op.run H s).2.world key = registers s.world key := by
  cases asks : op.request s.entry with
  | error e => rw [Op.run_typed typed, asks]
  | ok request =>
    obtain ⟨_, _, command⟩ := Op.request_typed typed asks
    obtain ⟨_, _, stored, _⟩ := device.run typed asks
    rw [stored, Registers.receive]
    split
    · rfl
    · rw [command]
      exact Function.update_of_ne other.symm _ _

theorem runs_keep (device : H.Remembers registers pending) {key : UInt8 × UInt8} (ops : List Op) (s : Session σ)
    (others : ∀ op ∈ ops, op.typed = true ∧ op.command s.entry ≠ key) :
    registers (Prog.runs (Op.run H) ops s).2.world key = registers s.world key := by
  induction ops generalizing s with
  | nil => rfl
  | cons op rest ih =>
    obtain ⟨typed, other⟩ := others op (List.mem_cons_self ..)
    obtain ⟨entry, _, _⟩ := Op.run_issues (H := H) op s
    have later := ih (op.run H s).2 fun op member => by
      rw [entry]
      exact others op (List.mem_cons_of_mem _ member)
    exact later.trans (device.run_keeps typed other)

end Host.Remembers

/-- A setting with both a setter and a getter. -/
inductive Setting
  | deviceMode (mode : DeviceMode)
  | brightness (level : UInt8)
  | pollRate (rate : PollRate)
deriving DecidableEq

namespace Setting

def set : Setting → Op
  | deviceMode mode => .setDeviceMode mode
  | brightness level => .setBrightness level
  | pollRate rate => .setPollRate rate

def get : Setting → Op
  | deviceMode _ => .getDeviceMode
  | brightness _ => .getBrightness
  | pollRate _ => .getPollRate

/-- What the getter should answer: the mode comes with its parameter. -/
def value : Setting → Reply
  | deviceMode mode => .pair (mode.toU8, 0x00)
  | brightness level => .byte level
  | pollRate rate => .rate rate

/-- The operations that set the same thing, to whatever value. -/
def isSetter : Setting → Op → Bool
  | deviceMode _, .setDeviceMode _ => true
  | brightness _, .setBrightness _ => true
  | pollRate _, .setPollRate _ => true
  | _, _ => false

/-- The device has the capability, its LED is one the commands know, and the
value has an encoding in its command family. -/
def Supported (entry : DeviceEntry) (setting : Setting) : Prop :=
  entry.defaultLed ∈ [0x00, 0x01, 0x04, 0x05] ∧
    match setting with
    | deviceMode _ => entry.capabilities.contains .DEVICE_MODE = true
    | brightness _ => entry.capabilities.contains .BRIGHTNESS = true
    | pollRate rate => entry.capabilities.contains .POLL_RATE = true ∧
        (entry.pollRateKind = .legacy → rate.legacyCode ≠ none)

/-- No two settings share a wire address, and no setter shares one with a getter or an effect. -/
theorem command_other {entry : DeviceEntry} {setting : Setting} {op : Op} (typed : op.typed = true)
    (other : setting.isSetter op = false) : op.command entry ≠ setting.set.command entry := by
  cases setting <;> cases op <;> cases kind : entry.pollRateKind <;>
    simp_all [Op.command, Op.typed, set, isSetter]

theorem ledOf_known {entry : DeviceEntry} (known : entry.defaultLed ∈ [0x00, 0x01, 0x04, 0x05]) :
    ∃ led, Op.ledOf entry = .ok led := by
  unfold Op.ledOf
  simp only [List.mem_cons, List.not_mem_nil, or_false] at known
  rcases known with led | led | led | led <;> rw [led] <;> exact ⟨_, rfl⟩

/-- The getter's parser finds the value in the very slot the setter put it in. -/
theorem request_set {entry : DeviceEntry} {setting : Setting} (supported : setting.Supported entry) :
    ∃ request, setting.set.request entry = .ok request ∧ request.isGet = false ∧
      ∀ r, r.arguments = request.arguments → setting.get.reading entry r = .ok setting.value := by
  obtain ⟨known, rest⟩ := supported
  cases setting with
  | deviceMode mode =>
    refine ⟨Cmd.setDeviceMode mode, ?_, show ((0x04 : UInt8) &&& 0x80 != 0) = false by decide, fun r same => ?_⟩
    · simp only [set, Op.request, Op.allowed, if_pos (show _ = true from rest)]
      rfl
    · have slot : (Cmd.setDeviceMode mode).arguments[0] = mode.toU8 := RazerReport.withArgs_arguments _ _ _ (by decide)
      have parameter : (Cmd.setDeviceMode mode).arguments[1] = 0x00 := RazerReport.withArgs_arguments _ _ _ (by decide)
      simp only [get, Op.reading, Parse.deviceMode, same, slot, parameter]
      rfl
  | brightness level =>
    obtain ⟨led, found⟩ := ledOf_known known
    refine ⟨Cmd.setBrightness .varStore led level, ?_, show ((0x04 : UInt8) &&& 0x80 != 0) = false by decide,
      fun r same => ?_⟩
    · simp only [set, Op.request, Op.allowed, if_pos (show _ = true from rest), found]
      rfl
    · have slot : (Cmd.setBrightness .varStore led level).arguments[2] = level :=
        RazerReport.withArgs_arguments _ _ _ (by decide)
      simp only [get, Op.reading, Parse.brightness, same, slot]
      rfl
  | pollRate rate =>
    obtain ⟨allowed, encodable⟩ := rest
    cases kind : entry.pollRateKind with
    | v2 =>
      refine ⟨Cmd.setPollRateV2 rate 0x00, ?_, show ((0x40 : UInt8) &&& 0x80 != 0) = false by decide, fun r same => ?_⟩
      · simp only [set, Op.request, Op.allowed, if_pos allowed, kind]
        rfl
      · have slot : (Cmd.setPollRateV2 rate 0x00).arguments[1] = rate.v2Code :=
          RazerReport.withArgs_arguments _ _ _ (by decide)
        simp only [get, Op.reading, kind, Parse.pollRateV2, same, slot, PollRate.fromV2Code_v2Code]
        rfl
    | legacy =>
      obtain ⟨code, encoded⟩ := Option.ne_none_iff_exists'.mp (encodable kind)
      refine ⟨(RazerReport.new 0x00 0x05 0x01).withArgs #v[code] (by decide), ?_,
        show ((0x05 : UInt8) &&& 0x80 != 0) = false by decide, fun r same => ?_⟩
      · simp only [set, Op.request, Op.allowed, if_pos allowed, kind, Cmd.setPollRateLegacy, encoded]
        rfl
      · have slot : ((RazerReport.new 0x00 0x05 0x01).withArgs #v[code] (by decide)).arguments[0] = code :=
          RazerReport.withArgs_arguments _ _ _ (by decide)
        simp only [get, Op.reading, kind, Parse.pollRateLegacy, same, slot, PollRate.fromLegacyCode_legacyCode encoded]
        rfl

theorem request_get {entry : DeviceEntry} {setting : Setting} (supported : setting.Supported entry) :
    ∃ request, setting.get.request entry = .ok request ∧ request.isGet = true ∧
      request.register = setting.set.command entry := by
  obtain ⟨known, rest⟩ := supported
  cases setting with
  | deviceMode mode =>
    refine ⟨Cmd.getDeviceMode, ?_, rfl, rfl⟩
    simp only [get, Op.request, Op.allowed, if_pos (show _ = true from rest)]
    rfl
  | brightness level =>
    obtain ⟨led, found⟩ := ledOf_known known
    refine ⟨Cmd.getBrightness .varStore led, ?_, show ((0x84 : UInt8) &&& 0x80 != 0) = true by decide,
      show ((0x0F : UInt8), (0x84 : UInt8) &&& 0x7F) = (0x0F, 0x04) by decide⟩
    simp only [get, Op.request, Op.allowed, if_pos (show _ = true from rest), found]
    rfl
  | pollRate rate =>
    obtain ⟨allowed, _⟩ := rest
    cases kind : entry.pollRateKind with
    | v2 =>
      refine ⟨Cmd.getPollRateV2, ?_, rfl, ?_⟩
      · simp only [get, Op.request, Op.allowed, if_pos allowed, kind]
        rfl
      · simp only [set, Op.command, kind]
        rfl
    | legacy =>
      refine ⟨Cmd.getPollRateLegacy, ?_, rfl, ?_⟩
      · simp only [get, Op.request, Op.allowed, if_pos allowed, kind]
        rfl
      · simp only [set, Op.command, kind]
        rfl

/-- A getter answers the last value set, whatever else was read or written in between. -/
theorem get_returns_last_set {σ : Type u} {H : Host σ} {registers : σ → Registers}
    {pending : σ → Option RazerReport} (device : H.Remembers registers pending) {setting : Setting} {s : Session σ}
    (supported : setting.Supported s.entry) {ops : List Op}
    (others : ∀ op ∈ ops, op.typed = true ∧ setting.isSetter op = false) :
    (setting.get.run H (Prog.runs (Op.run H) ops (setting.set.run H s).2).2).1 = .ok setting.value := by
  obtain ⟨request, asksSet, isSet, reads⟩ := request_set supported
  obtain ⟨question, asksGet, isGet, address⟩ := request_get supported
  have setterTyped : setting.set.typed = true := by cases setting <;> rfl
  have getterTyped : setting.get.typed = true := by cases setting <;> rfl
  obtain ⟨_, _, command⟩ := Op.request_typed setterTyped asksSet
  obtain ⟨_, _, stored, _⟩ := device.run setterTyped asksSet
  obtain ⟨entrySet, _, _⟩ := Op.run_issues (H := H) setting.set s
  obtain ⟨entryRuns, _, _⟩ := Op.runs_issue (H := H) ops (setting.set.run H s).2
  have written : registers (setting.set.run H s).2.world (setting.set.command s.entry) = some request.arguments := by
    rw [stored, Registers.receive, if_neg (by rw [isSet]; decide), command]
    exact Function.update_self ..
  have kept := device.runs_keep ops (setting.set.run H s).2 fun op member => by
    obtain ⟨typed, other⟩ := others op member
    rw [entrySet]
    exact ⟨typed, command_other typed other⟩
  have still : (Prog.runs (Op.run H) ops (setting.set.run H s).2).2.entry = s.entry := entryRuns.trans entrySet
  rw [← still] at asksGet
  obtain ⟨r, result, _, recalls⟩ := device.run getterTyped asksGet
  have arguments : r.arguments = request.arguments := by
    refine recalls isGet request.arguments ?_
    rw [address, kept]
    exact written
  rw [result, still]
  exact reads r arguments

end Setting

/-- A device with one register for each SET command. -/
structure RegisterFile where
  registers : Registers
  pending : Option RazerReport

namespace RegisterFile

def host : Host RegisterFile where
  setFeature w buf :=
    let request := RazerReport.fromBytes (Frame.report buf)
    (.ok (), { registers := w.registers.receive request, pending := some request })
  getFeature w buf :=
    match w.pending with
    | none => (.ok 0, buf, w)
    | some request =>
      let recalled := if request.isGet then w.registers request.register else none
      (.ok 91, hidrawBuf { request with status := .successful, arguments := recalled.getD request.arguments }, w)
  sleep w _ := w

theorem host_remembers : host.Remembers registers pending where
  setFeature _ _ := ⟨rfl, rfl, rfl⟩
  sleep _ _ := ⟨rfl, rfl⟩
  getFeature w buf request asked small := by
    refine ⟨91, _, w, by simp only [host, asked]; rfl, le_rfl, rfl, ?_, ?_⟩
    · rw [report_hidrawBuf, RazerReport.fromBytes_toBytes (by trivial)]
      exact checkResponse_accepts small small ⟨rfl, rfl, rfl⟩ rfl
    · intro get args known
      rw [report_hidrawBuf, RazerReport.fromBytes_toBytes (by trivial)]
      simp [get, known]

/-- The rate survives a change of mode, of brightness and of colour. -/
theorem get_returns_last_set_hz2000 :
    ((Setting.pollRate .hz2000).get.run host (Prog.runs (Op.run host)
      [.setDeviceMode .driver, .setBrightness 0x80, .setStaticEffect ⟨0, 0xFF, 0⟩, .getDeviceMode]
      ((Setting.pollRate .hz2000).set.run host (Session.new TABLE[2] ⟨fun _ => none, none⟩)).2).2).1 =
      .ok (.rate .hz2000) := by
  have supported : (Setting.pollRate .hz2000).Supported TABLE[2] := ⟨by decide, by decide, by decide⟩
  exact Setting.get_returns_last_set host_remembers supported (by decide)

end RegisterFile

end OpenRazer
