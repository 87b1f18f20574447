import OpenRazer.Idle
import OpenRazer.Stamp

universe u

namespace OpenRazer

/-- `matches!(reading, Reading::ReceiverIdle)`. -/
def Reading.idle {α : Type} : Reading α → Bool
  | .receiverIdle => true
  | _ => false

theorem Reading.idle_iff {α : Type} {reading : Reading α} : reading.idle = true ↔ reading = .receiverIdle := by
  cases reading <;> simp [idle]

/-- Everything `info` reads from one device; `none` means "not attempted". -/
structure DeviceReport where
  firmware : Reading (UInt8 × UInt8)
  serial : Option (Reading String)
  deviceMode : Option (Reading (UInt8 × UInt8))
deriving DecidableEq

namespace DeviceReport

def receiverIdle (report : DeviceReport) : Bool :=
  report.firmware.idle || report.serial.any Reading.idle || report.deviceMode.any Reading.idle

/-- The verdict on each attempted reading, in order. -/
def verdicts (report : DeviceReport) : List Bool :=
  report.firmware.idle :: ((report.serial.map Reading.idle).toList ++ (report.deviceMode.map Reading.idle).toList)

theorem receiverIdle_iff {report : DeviceReport} : report.receiverIdle = true ↔
    report.firmware = .receiverIdle ∨ report.serial = some .receiverIdle ∨ report.deviceMode = some .receiverIdle := by
  have asked {α : Type} {reading : Option (Reading α)} :
      reading.any Reading.idle = true ↔ reading = some .receiverIdle := by
    cases reading with
    | none => simp
    | some reading => simp [Reading.idle_iff]
  simp only [receiverIdle, Bool.or_eq_true, Reading.idle_iff, asked, or_assoc]

/-- A list whose only true entry can be its last. -/
theorem last_of_replicate (n : Nat) (b : Bool) (i : Nat) (idle : (List.replicate n false ++ [b])[i]? = some true) :
    i + 1 = (List.replicate n false ++ [b]).length := by
  rw [List.length_append, List.length_replicate, List.length_singleton]
  by_cases before : i < n
  · rw [List.getElem?_append_left (by simpa using before), List.getElem?_replicate, if_pos before] at idle
    cases idle
  · have within := (List.getElem?_eq_some_iff.mp idle).1
    simp only [List.length_append, List.length_replicate, List.length_singleton] at within
    omega

end DeviceReport

namespace Session

variable {σ : Type u} (H : Host σ)

/-- Read one device, stopping the moment it reports itself absent. -/
def readDevice (s : Session σ) : DeviceReport × Session σ :=
  let (version, s) := firmwareVersion H s
  let firmware := Reading.classify version
  if firmware.idle then
    ({ firmware := firmware, serial := none, deviceMode := none }, s)
  else
    let (number, s) := Session.serial H s
    let serial := Reading.classify number
    if serial.idle then
      ({ firmware := firmware, serial := some serial, deviceMode := none }, s)
    else
      let (mode, s) := getDeviceMode H s
      let deviceMode := Reading.classify mode
      ({ firmware := firmware, serial := some serial, deviceMode := some deviceMode }, s)

variable {H} {s t : Session σ}

/-- `t` is `s` after at most five sends of one request. -/
def Asked (request : RazerReport) (s t : Session σ) (events : List Event) : Prop :=
  t.entry = s.entry ∧ t.transactionId = s.transactionId ∧ t.trace = s.trace ++ events ∧
    ∃ n ≤ 5, sent events = List.replicate n (s.wire request)

theorem asked_nothing (request : RazerReport) (s : Session σ) : Asked request s s [] :=
  ⟨rfl, rfl, (List.append_nil _).symm, 0, Nat.zero_le 5, rfl⟩

/-- An operation that can only ask for one report asks for it at most five times. -/
theorem run_asked (H : Host σ) (s : Session σ) (op : Op) (typed : op.typed = true) {request : RazerReport}
    (only : ∀ r, op.request s.entry = .ok r → r = request) :
    ∃ events, Asked request s (op.run H s).2 events := by
  rw [Op.run_typed typed]
  cases asks : op.request s.entry with
  | error e => exact ⟨[], asked_nothing request s⟩
  | ok r =>
    obtain rfl := only r asks
    obtain ⟨accepted, _⟩ := Op.request_typed typed asks
    obtain ⟨_, bound⟩ := exchanges_bounds H r s
    simp only [Op.transacted, transact_accepted accepted]
    exact ⟨_, rfl, rfl, rfl, _, bound, sent_schedule ..⟩

theorem firmwareVersion_asked (H : Host σ) (s : Session σ) :
    ∃ events, Asked Cmd.getFirmwareVersion s (firmwareVersion H s).2 events := by
  have asked := run_asked H s .firmwareVersion rfl fun r asks => (Except.ok.inj (Op.asked_of_guarded asks)).symm
  rw [Op.run, Prog.snd_bind_pure] at asked
  exact asked

theorem serial_asked (H : Host σ) (s : Session σ) : ∃ events, Asked Cmd.getSerial s (Session.serial H s).2 events := by
  have asked := run_asked H s .serial rfl fun r asks => (Except.ok.inj (Op.asked_of_guarded asks)).symm
  rw [Op.run, Prog.snd_bind_pure] at asked
  exact asked

theorem getDeviceMode_asked (H : Host σ) (s : Session σ) :
    ∃ events, Asked Cmd.getDeviceMode s (getDeviceMode H s).2 events := by
  have asked := run_asked H s .getDeviceMode rfl fun r asks => (Except.ok.inj (Op.asked_of_guarded asks)).symm
  rw [Op.run, Prog.snd_bind_pure] at asked
  exact asked

theorem firmwareVersion_overheard (H : Host σ) (s : Session σ) :
    ∃ events, Overheard s (firmwareVersion H s) (fun log => firmwareVersion H.recorded (s.tapped log)) events := by
  obtain ⟨events, heard⟩ := Op.run_overheard (H := H) .firmwareVersion s
  simp only [Op.run, Prog.bind_pure_apply] at heard
  exact ⟨events, heard.of_map (Prog.except_map_injective fun _ _ => Reply.pair.inj)⟩

theorem serial_overheard (H : Host σ) (s : Session σ) :
    ∃ events, Overheard s (Session.serial H s) (fun log => Session.serial H.recorded (s.tapped log)) events := by
  obtain ⟨events, heard⟩ := Op.run_overheard (H := H) .serial s
  simp only [Op.run, Prog.bind_pure_apply] at heard
  exact ⟨events, heard.of_map (Prog.except_map_injective fun _ _ => Reply.text.inj)⟩

theorem getDeviceMode_overheard (H : Host σ) (s : Session σ) :
    ∃ events, Overheard s (getDeviceMode H s) (fun log => getDeviceMode H.recorded (s.tapped log)) events := by
  obtain ⟨events, heard⟩ := Op.run_overheard (H := H) .getDeviceMode s
  simp only [Op.run, Prog.bind_pure_apply] at heard
  exact ⟨events, heard.of_map (Prog.except_map_injective fun _ _ => Reply.pair.inj)⟩

theorem readDevice_overheard (H : Host σ) (s : Session σ) :
    ∃ events, Overheard s (readDevice H s) (fun log => readDevice H.recorded (s.tapped log)) events := by
  obtain ⟨firmware, trace₁, heard₁⟩ := firmwareVersion_overheard H s
  obtain ⟨serial, trace₂, heard₂⟩ := serial_overheard H (firmwareVersion H s).2
  obtain ⟨mode, trace₃, heard₃⟩ := getDeviceMode_overheard H (Session.serial H (firmwareVersion H s).2).2
  simp only at heard₁ heard₂ heard₃
  simp only [readDevice, heard₁]
  split
  · exact ⟨firmware, trace₁, fun log => rfl⟩
  · simp only [heard₂]
    split
    · refine ⟨firmware ++ serial, ?_, fun log => ?_⟩
      · rw [trace₂, trace₁, List.append_assoc]
      · simp only [List.append_assoc]
    · refine ⟨firmware ++ serial ++ mode, ?_, fun log => ?_⟩
      · simp only [trace₃, trace₂, trace₁, List.append_assoc]
      · simp only [heard₃, List.append_assoc]

theorem wire_commandId (s : Session σ) (request : RazerReport) : (s.wire request)[8] = request.commandId := by
  have byte := hidrawBuf_succ (request.withTransactionId s.transactionId) (i := 7) (by decide)
  exact byte.trans (RazerReport.toBytes_layout _ (by decide) (by decide))

/-- Where `readDevice` stops: after an idle firmware reading, after an idle
serial reading, or at the end. -/
theorem readDevice_cases (H : Host σ) (s : Session σ) :
    let version := firmwareVersion H s
    let number := Session.serial H version.2
    let mode := getDeviceMode H number.2
    (Reading.classify version.1 = .receiverIdle ∧
      readDevice H s = (⟨.receiverIdle, none, none⟩, version.2)) ∨
    (Reading.classify version.1 ≠ .receiverIdle ∧ Reading.classify number.1 = .receiverIdle ∧
      readDevice H s = (⟨Reading.classify version.1, some .receiverIdle, none⟩, number.2)) ∨
    (Reading.classify version.1 ≠ .receiverIdle ∧ Reading.classify number.1 ≠ .receiverIdle ∧
      readDevice H s =
        (⟨Reading.classify version.1, some (Reading.classify number.1), some (Reading.classify mode.1)⟩, mode.2)) := by
  intro version number mode
  by_cases first : Reading.classify version.1 = .receiverIdle
  · refine Or.inl ⟨first, ?_⟩
    have stops : (Reading.classify (firmwareVersion H s).1).idle = true := Reading.idle_iff.mpr first
    simp only [readDevice, stops, if_true]
    rw [show Reading.classify (firmwareVersion H s).1 = .receiverIdle from first]
  · have goesOn : ¬(Reading.classify (firmwareVersion H s).1).idle = true := fun idle => first (Reading.idle_iff.mp idle)
    by_cases second : Reading.classify number.1 = .receiverIdle
    · refine Or.inr (Or.inl ⟨first, second, ?_⟩)
      have stops : (Reading.classify (Session.serial H (firmwareVersion H s).2).1).idle = true := Reading.idle_iff.mpr second
      simp only [readDevice, if_neg goesOn, stops, if_true]
      rw [show Reading.classify (Session.serial H (firmwareVersion H s).2).1 = .receiverIdle from second]
    · refine Or.inr (Or.inr ⟨first, second, ?_⟩)
      have goesOn' : ¬(Reading.classify (Session.serial H (firmwareVersion H s).2).1).idle = true :=
        fun idle => second (Reading.idle_iff.mp idle)
      simp only [readDevice, if_neg goesOn, if_neg goesOn']
      rfl

/-- A reading is left out exactly when an earlier one was idle, and only the last one made can be. -/
theorem readDevice_report (H : Host σ) (s : Session σ) :
    ((readDevice H s).1.serial = none ↔ (readDevice H s).1.firmware = .receiverIdle) ∧
    ((readDevice H s).1.deviceMode = none ↔
      (readDevice H s).1.firmware = .receiverIdle ∨ (readDevice H s).1.serial = some .receiverIdle) ∧
    (∀ i, (readDevice H s).1.verdicts[i]? = some true → i + 1 = (readDevice H s).1.verdicts.length) ∧
    (∀ message, (readDevice H s).1.firmware = .failed message → (readDevice H s).1.serial =
      some (Reading.classify (Session.serial H (firmwareVersion H s).2).1)) ∧
    (∀ message, (readDevice H s).1.serial = some (.failed message) → (readDevice H s).1.deviceMode =
      some (Reading.classify (getDeviceMode H (Session.serial H (firmwareVersion H s).2).2).1)) := by
  have answered {α : Type} {result : Except HidError α} (there : Reading.classify result ≠ .receiverIdle) :
      (Reading.classify result).idle = false := Bool.eq_false_iff.mpr (mt Reading.idle_iff.mp there)
  rcases readDevice_cases H s with ⟨first, ends⟩ | ⟨first, second, ends⟩ | ⟨first, second, ends⟩
  · rw [ends]
    refine ⟨by simp, by simp, ?_, by simp, by simp⟩
    exact DeviceReport.last_of_replicate 0 true
  · rw [ends]
    refine ⟨by simp [first], by simp, ?_, by simp [second], by simp⟩
    simp only [DeviceReport.verdicts, answered first]
    exact DeviceReport.last_of_replicate 1 true
  · rw [ends]
    refine ⟨by simp [first], by simp [first, second], ?_, by simp, by simp⟩
    simp only [DeviceReport.verdicts, answered first, answered second, Option.map_some, Option.toList_some]
    exact DeviceReport.last_of_replicate 2 _

/-- What is sent for each of the three readings; nothing is for one that is left out. -/
theorem readDevice_asked (H : Host σ) (s : Session σ) :
    ∃ firmware serial mode : List Event,
      (readDevice H s).2.trace = s.trace ++ (firmware ++ serial ++ mode) ∧
      (∃ i ≤ 5, sent firmware = List.replicate i (s.wire Cmd.getFirmwareVersion)) ∧
      (∃ j ≤ 5, sent serial = List.replicate j (s.wire Cmd.getSerial)) ∧
      (∃ k ≤ 5, sent mode = List.replicate k (s.wire Cmd.getDeviceMode)) ∧
      (firmwareVersion H s).2.trace = s.trace ++ firmware ∧
      ((readDevice H s).1.firmware = .receiverIdle → serial = [] ∧ mode = []) ∧
      ((readDevice H s).1.serial = some .receiverIdle → mode = []) := by
  obtain ⟨firmware, entry₁, tid₁, trace₁, fewFirmware⟩ := firmwareVersion_asked H s
  obtain ⟨serial, entry₂, tid₂, trace₂, fewSerial⟩ := serial_asked H (firmwareVersion H s).2
  obtain ⟨mode, entry₃, tid₃, trace₃, fewMode⟩ := getDeviceMode_asked H (Session.serial H (firmwareVersion H s).2).2
  rw [show (firmwareVersion H s).2.wire = s.wire from by unfold wire; rw [tid₁]] at fewSerial
  rw [show (Session.serial H (firmwareVersion H s).2).2.wire = s.wire from by unfold wire; rw [tid₂, tid₁]] at fewMode
  have none (request : RazerReport) : ∃ n ≤ 5, sent [] = List.replicate n (s.wire request) := ⟨0, Nat.zero_le 5, rfl⟩
  rcases readDevice_cases H s with ⟨first, ends⟩ | ⟨first, second, ends⟩ | ⟨first, second, ends⟩
  · refine ⟨firmware, [], [], ?_, fewFirmware, none _, none _, trace₁, fun _ => ⟨rfl, rfl⟩, fun _ => rfl⟩
    rw [ends, trace₁, List.append_nil, List.append_nil]
  · refine ⟨firmware, serial, [], ?_, fewFirmware, fewSerial, none _, trace₁, ?_, fun _ => rfl⟩
    · rw [ends, trace₂, trace₁, List.append_nil, List.append_assoc]
    · rw [ends]
      exact fun idle => absurd idle first
  · refine ⟨firmware, serial, mode, ?_, fewFirmware, fewSerial, fewMode, trace₁, ?_, ?_⟩
    · rw [ends, trace₃, trace₂, trace₁]
      simp only [List.append_assoc]
    · rw [ends]
      exact fun idle => absurd idle first
    · rw [ends]
      exact fun idle => absurd (Option.some.inj idle) second

/-- What `info` promises: the readings are those of the three operations, up to
the first idle one; only their three GET requests leave, in order and at most
five times each, and an idle answer is the last thing asked for. -/
theorem readDevice_read_only (H : Host σ) (s : Session σ) :
    (let version := firmwareVersion H s
    let number := Session.serial H version.2
    let mode := getDeviceMode H number.2
    (Reading.classify version.1 = .receiverIdle ∧
      readDevice H s = (⟨.receiverIdle, none, none⟩, version.2)) ∨
    (Reading.classify version.1 ≠ .receiverIdle ∧ Reading.classify number.1 = .receiverIdle ∧
      readDevice H s = (⟨Reading.classify version.1, some .receiverIdle, none⟩, number.2)) ∨
    (Reading.classify version.1 ≠ .receiverIdle ∧ Reading.classify number.1 ≠ .receiverIdle ∧
      readDevice H s =
        (⟨Reading.classify version.1, some (Reading.classify number.1), some (Reading.classify mode.1)⟩, mode.2))) ∧
    ∃ firmware serial mode : List Event,
      Overheard s (readDevice H s) (fun log => readDevice H.recorded (s.tapped log)) (firmware ++ serial ++ mode) ∧
      (∃ i ≤ 5, sent firmware = List.replicate i (s.wire Cmd.getFirmwareVersion)) ∧
      (∃ j ≤ 5, sent serial = List.replicate j (s.wire Cmd.getSerial)) ∧
      (∃ k ≤ 5, sent mode = List.replicate k (s.wire Cmd.getDeviceMode)) ∧
      (∀ buf ∈ sent (firmware ++ serial ++ mode), buf[8] &&& 0x80 ≠ 0) ∧
      (firmwareVersion H s).2.trace = s.trace ++ firmware ∧
      ((readDevice H s).1.serial = none ↔ (readDevice H s).1.firmware = .receiverIdle) ∧
      ((readDevice H s).1.deviceMode = none ↔
        (readDevice H s).1.firmware = .receiverIdle ∨ (readDevice H s).1.serial = some .receiverIdle) ∧
      ((readDevice H s).1.firmware = .receiverIdle → serial = [] ∧ mode = []) ∧
      ((readDevice H s).1.serial = some .receiverIdle → mode = []) ∧
      (∀ i, (readDevice H s).1.verdicts[i]? = some true → i + 1 = (readDevice H s).1.verdicts.length) ∧
      (∀ message, (readDevice H s).1.firmware = .failed message → (readDevice H s).1.serial =
        some (Reading.classify (Session.serial H (firmwareVersion H s).2).1)) ∧
      (∀ message, (readDevice H s).1.serial = some (.failed message) → (readDevice H s).1.deviceMode =
        some (Reading.classify (getDeviceMode H (Session.serial H (firmwareVersion H s).2).2).1)) ∧
      ((readDevice H s).1.receiverIdle = true ↔ (readDevice H s).1.firmware = .receiverIdle ∨
        (readDevice H s).1.serial = some .receiverIdle ∨ (readDevice H s).1.deviceMode = some .receiverIdle) := by
  obtain ⟨firmware, serial, mode, trace, fewFirmware, fewSerial, fewMode, firmwareTrace, idleFirmware, idleSerial⟩ :=
    readDevice_asked H s
  obtain ⟨noSerial, noMode, lastIdle, hardFirmware, hardSerial⟩ := readDevice_report H s
  have reads {events : List Event} {request : RazerReport} (get : request.commandId &&& 0x80 ≠ 0)
      (few : ∃ n ≤ 5, sent events = List.replicate n (s.wire request)) : ∀ buf ∈ sent events, buf[8] &&& 0x80 ≠ 0 := by
    obtain ⟨n, _, frames⟩ := few
    intro buf member
    rw [frames] at member
    rw [(List.mem_replicate.mp member).2, wire_commandId]
    exact get
  have readFirmware := reads (by decide) fewFirmware
  have readSerial := reads (by decide) fewSerial
  have readMode := reads (by decide) fewMode
  obtain ⟨_, heard⟩ := readDevice_overheard H s
  refine ⟨readDevice_cases H s, firmware, serial, mode, heard.of_trace trace, fewFirmware, fewSerial, fewMode, ?_,
    firmwareTrace, noSerial, noMode, idleFirmware, idleSerial, lastIdle, hardFirmware, hardSerial,
    DeviceReport.receiverIdle_iff⟩
  rw [sent_append, sent_append]
  exact List.forall_mem_append.mpr ⟨List.forall_mem_append.mpr ⟨readFirmware, readSerial⟩, readMode⟩

end Session

end OpenRazer
