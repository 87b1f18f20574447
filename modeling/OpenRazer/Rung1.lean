import OpenRazer.Python
import OpenRazer.SerialText
import OpenRazer.Settings
import OpenRazer.ValidateHidraw

universe u

namespace OpenRazer

open Python

namespace ValidateHidraw

/-- What ends the harness early: an index that is out of range, or an `ioctl` that fails. -/
inductive Raised
  | indexError
  | osError (e : HidError)
deriving DecidableEq

inductive Verdict
  | proven
  | unproven
  | noTruth
deriving DecidableEq

/-- `OK_STATUSES`. -/
def OK_STATUSES : List UInt8 := [0x02, 0x01]

/-- `bytearray(b'\x00' + report)`. -/
def outBuffer (report : List UInt8) : Frame :=
  Vector.ofFn fun i => (0x00 :: report).getD i.val 0

section
variable {σ : Type u} (H : Host σ)

def setFeature (out : Frame) : Prog σ Raised Unit := fun w =>
  ((H.setFeature w out).1.mapError .osError, (H.setFeature w out).2)

/-- The byte count that `ioctl` returns is dropped. -/
def getFeature (inp : Frame) : Prog σ Raised Frame := fun w =>
  match H.getFeature w inp with
  | (.error e, _, w) => (.error (.osError e), w)
  | (.ok _, inp, w) => (.ok inp, w)

/-- `max(WAIT_S, 0.01)` seconds lie between the SET and the GET. -/
def sendRecv (commandClass commandId dataSize : UInt8) : Prog σ Raised WireReport := do
  let report ← .lift ((build commandClass commandId dataSize []).elim (.error .indexError) .ok)
  setFeature H (outBuffer report)
  .modify fun w => H.sleep w (.fromMillis 10)
  let inp ← getFeature H (Vector.replicate 91 0)
  pure inp.report

theorem status_lt : 0 < 90 := by
  decide

theorem major_lt : 8 < 90 := by
  decide

theorem minor_lt : 9 < 90 := by
  decide

/-- `'v%d.%d' % (resp[8], resp[9])`. -/
def firmwareText (resp : WireReport) : String :=
  "v" ++ toString (resp.get ⟨8, major_lt⟩).toNat ++ "." ++ toString (resp.get ⟨9, minor_lt⟩).toNat

/-- `resp[8:8 + 22].split(b'\x00')[0].decode('ascii', 'replace')`. -/
def serialText (resp : WireReport) : String :=
  String.ofList ((((resp.toList.drop 8).take 22).takeWhile (· != 0)).map fun b =>
    if b < 0x80 then Char.ofNat b.toNat else Char.ofNat 0xFFFD)

/-- The loop over what `razerkbd` shows: the two files of each entry, as far as
they can be read. A firmware version without a serial is kept. -/
def groundTruth : List (Option String × Option String) → Option String → Option String × Option String
  | [], fw => (fw, none)
  | (none, _) :: rest, fw => groundTruth rest fw
  | (some fw, none) :: rest, _ => groundTruth rest (some (strip fw))
  | (some fw, some sn) :: _, _ => (some (strip fw), some (strip sn))

/-- What the harness shows and what it makes of it. -/
structure Outcome where
  verdict : Verdict
  firmware : String
  serial : String
deriving DecidableEq

def judge (ok : Bool) (fw serial : String) : Option String × Option String → Verdict
  | (some truthFw, some truthSn) => if ok && fw == truthFw && serial == truthSn then .proven else .unproven
  | _ => if ok then .noTruth else .unproven

def rung1 (razerkbd : List (Option String × Option String)) : Prog σ Raised Outcome := do
  let resp ← sendRecv H 0x00 0x81 0x02
  let fw := firmwareText resp
  let ok := decide (resp.get ⟨0, status_lt⟩ ∈ OK_STATUSES)
  let resp ← sendRecv H 0x00 0x82 0x16
  let serial := serialText resp
  let ok := ok && decide (resp.get ⟨0, status_lt⟩ ∈ OK_STATUSES)
  return ⟨judge ok fw serial (groundTruth razerkbd none), fw, serial⟩

end

theorem outBuffer_toBytes (r : RazerReport) : outBuffer r.toBytes.toList = hidrawBuf r := by
  refine Vector.ext fun i bound => ?_
  rw [outBuffer, Vector.getElem_ofFn]
  cases i with
  | zero => exact (hidrawBuf_zero r).symm
  | succ i =>
    have inside : i < 90 := by omega
    have shifted : (hidrawBuf r)[i + 1] = r.toBytes[i] := by
      simpa only [Nat.add_comm] using hidrawBuf_succ r inside
    rw [shifted]
    simp [inside]

/-- The two frames are those of a driver session on the keyboard. -/
theorem build_firmware : build 0x00 0x81 0x02 [] = some (Cmd.getFirmwareVersion.withTransactionId 0x1F).toBytes.toList := by
  decide +kernel

theorem build_serial : build 0x00 0x82 0x16 [] = some (Cmd.getSerial.withTransactionId 0x1F).toBytes.toList := by
  decide +kernel

/-- What the harness makes of one exchange: a buffer that was not filled counts as one that was. -/
def read : Attempt → Except Raised WireReport
  | .setFailed e | .getFailed e _ => .error (.osError e)
  | .short _ reply _ | .answered _ reply _ => .ok reply.report

/-- A complete reply to that request, as far as the routing goes. -/
def AnswersTo (request : RazerReport) (a : Attempt) : Prop :=
  ∃ r, a.response = some r ∧ RoutesTo request r ∧ r.dataSize.toNat ≤ 80

section
variable {σ : Type u} {H : Host σ}

/-- A device that is ready after its wait is in no other state ten milliseconds
after the SET, so the harness makes the exchange that a session would. -/
theorem sendRecv_eq {wait : Duration} (prompt : ∀ w, H.sleep w (.fromMillis 10) = H.sleep w wait)
    {commandClass commandId dataSize : UInt8} {request : RazerReport}
    (built : build commandClass commandId dataSize [] = some request.toBytes.toList) (w : σ) :
    sendRecv H commandClass commandId dataSize w =
      (read (H.exchange wait (hidrawBuf request) w).1, (H.exchange wait (hidrawBuf request) w).2) := by
  rw [sendRecv, built]
  simp only [Option.elim_some, Prog.bind_apply, Prog.lift_apply, outBuffer_toBytes, setFeature, Prog.modify_apply, getFeature,
    Host.exchange, prompt]
  rcases H.setFeature w (hidrawBuf request) with ⟨e | _, w₁⟩
  · rfl
  · simp only [Except.mapError]
    rcases H.getFeature (H.sleep w₁ wait) (Vector.replicate 91 0) with ⟨e | got, reply, w₂⟩
    · rfl
    · by_cases cut : got < 91
      · simp only [dif_pos cut, read, Prog.pure_apply]
      · simp only [dif_neg cut, read, Prog.pure_apply]

theorem mem_OK_STATUSES {resp : WireReport} : resp.get ⟨0, status_lt⟩ ∈ OK_STATUSES ↔ (RazerReport.fromBytes resp).status.isOk = true := by
  have decoded : (RazerReport.fromBytes resp).status = Status.fromU8 (resp.get ⟨0, status_lt⟩) := rfl
  rw [decoded, OK_STATUSES]
  generalize resp.get ⟨0, status_lt⟩ = b
  unfold Status.fromU8
  split <;> simp_all [Status.isOk]

/-- A transaction whose first exchange is answered well makes no other. -/
theorem transact_once {request : RazerReport} {s : Session σ} (accepted : checkRequest request = .ok ())
    (answers : AnswersTo request (H.exchange s.entry.wait (s.wire request) s.world).1) {resp : WireReport}
    (got : read (H.exchange s.entry.wait (s.wire request) s.world).1 = .ok resp) (ok : resp.get ⟨0, status_lt⟩ ∈ OK_STATUSES) :
    ∃ t, Session.transact H request s = (.ok (RazerReport.fromBytes resp), t) ∧
      t.world = (H.exchange s.entry.wait (s.wire request) s.world).2 ∧ t.entry = s.entry ∧
      t.transactionId = s.transactionId ∧ t.lastAttempts = 1 := by
  obtain ⟨r, response, routed, small⟩ := answers
  rcases here : H.exchange s.entry.wait (s.wire request) s.world with ⟨a, w'⟩
  rw [here] at response got
  cases a with
  | setFailed _ | getFailed _ _ | short _ _ _ => cases response
  | answered count reply complete =>
    obtain rfl := Option.some.inj response
    obtain rfl := Except.ok.inj got
    have fine : checkResponse request (RazerReport.fromBytes reply.report) = .ok () :=
      checkResponse_accepts (checkRequest_ok_iff.mp accepted).1 small routed (mem_OK_STATUSES.mp ok)
    have settled : (Attempt.answered count reply complete).rejection request = none := by
      rw [Attempt.rejection, Attempt.response, Option.map_some, fine]
    have once : Session.exchanges H request s = ([.answered count reply complete], w') := by
      rw [Session.exchanges, Host.retry_settled (by rw [here, settled]; exact Bool.false_ne_true), here]
    rw [Session.transact_accepted accepted, once]
    refine ⟨_, Prod.ext ?_ rfl, rfl, rfl, rfl, rfl⟩
    have result : outcome request [.answered count reply complete] = .ok (RazerReport.fromBytes reply.report) := by
      simp only [outcome, List.getLast?_singleton, settled]
      rfl
    exact result

end

theorem arguments_window (resp : WireReport) :
    (RazerReport.fromBytes resp).arguments.toList.take 22 = (resp.toList.drop 8).take 22 := by
  refine List.ext_getElem (by simp) fun i bound _ => ?_
  simp [RazerReport.fromBytes]

/-- Shown ASCII is the bytes themselves. -/
theorem serialText_eq {resp : WireReport} (ascii : ∀ c ∈ (serialText resp).toList, c.toNat < 128) :
    serialText resp = Latin1.text (serialBytes (RazerReport.fromBytes resp)) ∧
      ∀ b ∈ serialBytes (RazerReport.fromBytes resp), b < 0x80 := by
  have shown : serialText resp = String.ofList ((serialBytes (RazerReport.fromBytes resp)).map fun b =>
      if b < 0x80 then Char.ofNat b.toNat else Char.ofNat 0xFFFD) := by
    rw [serialText, serialBytes, arguments_window]
  rw [shown, String.toList_ofList] at ascii
  have small : ∀ b ∈ serialBytes (RazerReport.fromBytes resp), b < 0x80 := by
    intro b member
    by_contra large
    have replaced := ascii _ (List.mem_map_of_mem member)
    rw [if_neg large] at replaced
    exact absurd replaced (by decide)
  refine ⟨?_, small⟩
  rw [shown, Latin1.text]
  exact congrArg String.ofList (List.map_congr_left fun b member => if_pos (small b member))

/-- What the driver makes of bytes that the harness shows as ASCII. -/
theorem serial_of_shown {resp : WireReport} (ascii : ∀ c ∈ (serialText resp).toList, c.toNat < 128) :
    Parse.serial (RazerReport.fromBytes resp) = .ok (String.ofList (Parse.trimEnd (serialText resp).toList)) := by
  obtain ⟨shown, small⟩ := serialText_eq ascii
  have letters : (Latin1.text (serialBytes (RazerReport.fromBytes resp))).toList =
      (serialBytes (RazerReport.fromBytes resp)).map Latin1.char := String.toList_ofList ..
  rw [serial_eq, if_pos (all_ascii.mpr small), shown, letters, trimEnd_map]
  rfl

/-- A text of the ground truth has no white space at its end. -/
theorem trimEnd_strip (text : String) : Parse.trimEnd (strip text).toList = (strip text).toList := by
  have blank : ∀ c, Parse.isWhitespace c = true → isSpace c = true := by
    intro c white
    simp only [Parse.isWhitespace, Bool.or_eq_true, Bool.and_eq_true, beq_iff_eq, decide_eq_true_eq] at white
    simp only [isSpace, Words.isSpace, Bool.or_eq_true, Bool.and_eq_true, beq_iff_eq, decide_eq_true_eq]
    omega
  have kept : (strip text).toList = (text.toList.dropWhile isSpace).rdropWhile isSpace := String.toList_ofList ..
  change (strip text).toList.rdropWhile Parse.isWhitespace = _
  rw [List.rdropWhile_eq_self_iff]
  intro some white
  have last := blank _ white
  simp only [kept] at last some
  exact List.rdropWhile_last_not isSpace _ some last

theorem groundTruth_serial {razerkbd : List (Option String × Option String)} {fw first : Option String} {sn : String}
    (known : groundTruth razerkbd fw = (first, some sn)) : ∃ raw, sn = strip raw := by
  induction razerkbd generalizing fw with
  | nil => cases known
  | cons files rest ih =>
    rcases files with ⟨_ | version, _ | number⟩
    · exact ih known
    · exact ih known
    · exact ih known
    · exact ⟨number, (Option.some.inj (congrArg Prod.snd known)).symm⟩

theorem judge_good {ok : Bool} {fw serial : String} {truth : Option String × Option String}
    (good : judge ok fw serial truth ≠ .unproven) : ok = true := by
  unfold judge at good
  split at good
  · by_contra bad
    rw [Bool.eq_false_of_not_eq_true bad] at good
    exact good rfl
  · by_contra bad
    rw [Bool.eq_false_of_not_eq_true bad] at good
    exact good rfl

theorem judge_proven {ok : Bool} {fw serial : String} {truth : Option String × Option String}
    (proven : judge ok fw serial truth = .proven) : truth = (some fw, some serial) := by
  unfold judge at proven
  split at proven
  · split at proven
    · rename_i matched
      simp only [Bool.and_eq_true, beq_iff_eq] at matched
      obtain ⟨⟨_, rfl⟩, rfl⟩ := matched
      rfl
    · cases proven
  · split at proven <;> cases proven

section
variable {σ : Type u} {H : Host σ}

/-- A run of the harness to its end is two exchanges and a judgement. -/
theorem rung1_eq_ok {wait : Duration} (prompt : ∀ w, H.sleep w (.fromMillis 10) = H.sleep w wait)
    {razerkbd : List (Option String × Option String)} {w w' : σ} {shown : Outcome}
    (ran : rung1 H razerkbd w = (.ok shown, w')) :
    let first := H.exchange wait (hidrawBuf (Cmd.getFirmwareVersion.withTransactionId 0x1F)) w
    let second := H.exchange wait (hidrawBuf (Cmd.getSerial.withTransactionId 0x1F)) first.2
    ∃ resp resp', read first.1 = .ok resp ∧ read second.1 = .ok resp' ∧ shown.firmware = firmwareText resp ∧
      shown.serial = serialText resp' ∧ shown.verdict =
        judge (decide (resp.get ⟨0, status_lt⟩ ∈ OK_STATUSES) && decide (resp'.get ⟨0, status_lt⟩ ∈ OK_STATUSES)) shown.firmware shown.serial
          (groundTruth razerkbd none) := by
  intro first second
  have one := sendRecv_eq prompt build_firmware w
  have two := sendRecv_eq prompt build_serial first.2
  change _ = (read first.1, first.2) at one
  change _ = (read second.1, second.2) at two
  unfold rung1 at ran
  rcases got : read first.1 with e | resp
  · rw [got] at one
    rw [Prog.bind_of_error one] at ran
    cases ran
  · rw [got] at one
    rw [Prog.bind_of_ok one] at ran
    rcases got' : read second.1 with e | resp'
    · rw [got'] at two
      rw [Prog.bind_of_error two] at ran
      cases ran
    · rw [got'] at two
      rw [Prog.bind_of_ok two] at ran
      obtain rfl := Except.ok.inj (congrArg Prod.fst ran)
      exact ⟨resp, resp', rfl, rfl, rfl, rfl, rfl⟩

/-- A typed operation whose first exchange is answered well parses that answer. -/
theorem run_once {op : Op} {request : RazerReport} {s : Session σ} (typed : op.typed = true)
    (asks : op.request s.entry = .ok request)
    (answers : AnswersTo request (H.exchange s.entry.wait (s.wire request) s.world).1) {resp : WireReport}
    (got : read (H.exchange s.entry.wait (s.wire request) s.world).1 = .ok resp) (ok : resp.get ⟨0, status_lt⟩ ∈ OK_STATUSES) :
    ∃ t, op.run H s = (op.reading s.entry (RazerReport.fromBytes resp), t) ∧
      t.world = (H.exchange s.entry.wait (s.wire request) s.world).2 ∧ t.entry = s.entry ∧
      t.transactionId = s.transactionId ∧ t.lastAttempts = 1 := by
  obtain ⟨t, played, after⟩ := transact_once (Op.request_typed typed asks).1 answers got ok
  refine ⟨t, ?_, after⟩
  rw [Op.run_typed typed, asks]
  exact Op.transacted_of_ok played

/-- A verdict of the harness other than "not proven" holds for the driver: where
the keyboard is ready after its wait and its replies are to what was asked, the
first frame of either read is enough, the values are those shown, and where they
were proven they are those of the kernel module. -/
theorem verdict_transfers (prompt : ∀ w, H.sleep w (.fromMillis 10) = H.sleep w TABLE[2].wait)
    {razerkbd : List (Option String × Option String)} {w w' : σ} {shown : Outcome}
    (ran : rung1 H razerkbd w = (.ok shown, w')) (good : shown.verdict ≠ .unproven)
    (first : AnswersTo Cmd.getFirmwareVersion
      (H.exchange TABLE[2].wait (hidrawBuf (Cmd.getFirmwareVersion.withTransactionId 0x1F)) w).1)
    (second : AnswersTo Cmd.getSerial (H.exchange TABLE[2].wait (hidrawBuf (Cmd.getSerial.withTransactionId 0x1F))
      (H.exchange TABLE[2].wait (hidrawBuf (Cmd.getFirmwareVersion.withTransactionId 0x1F)) w).2).1) :
    let firmware := Op.firmwareVersion.run H (Session.new TABLE[2] w)
    let serial := Op.serial.run H firmware.2
    (∃ major minor, firmware.1 = .ok (.pair (major, minor)) ∧
      shown.firmware = "v" ++ toString major.toNat ++ "." ++ toString minor.toNat) ∧
    ((∀ c ∈ shown.serial.toList, c.toNat < 128) →
      serial.1 = .ok (.text (String.ofList (Parse.trimEnd shown.serial.toList)))) ∧
    firmware.2.lastAttempts = 1 ∧ serial.2.lastAttempts = 1 ∧
    (shown.verdict = .proven → groundTruth razerkbd none = (some shown.firmware, some shown.serial) ∧
      ((∀ c ∈ shown.serial.toList, c.toNat < 128) → serial.1 = .ok (.text shown.serial))) := by
  intro firmware serial
  obtain ⟨resp, resp', got, got', shownFirmware, shownSerial, verdict⟩ := rung1_eq_ok prompt ran
  have ok := judge_good (verdict ▸ good)
  simp only [Bool.and_eq_true, decide_eq_true_eq] at ok
  have asksFirmware : Op.firmwareVersion.request TABLE[2] = .ok Cmd.getFirmwareVersion := by decide
  have asksSerial : Op.serial.request TABLE[2] = .ok Cmd.getSerial := by decide
  have frame {s : Session σ} (tid : s.transactionId = 0x1F) (request : RazerReport) :
      s.wire request = hidrawBuf (request.withTransactionId 0x1F) := by rw [Session.wire, tid]
  obtain ⟨t, ranFirst, world, entry, tid, attempts⟩ :=
    run_once (s := Session.new TABLE[2] w) rfl asksFirmware first got ok.1
  have stamped : t.transactionId = 0x1F := tid
  have same : t.entry = TABLE[2] := entry
  have after : t.world = (H.exchange TABLE[2].wait (hidrawBuf (Cmd.getFirmwareVersion.withTransactionId 0x1F)) w).2 := world
  rw [← after, ← frame stamped, ← same] at second got'
  obtain ⟨t', ranSecond, _, _, _, attempts'⟩ := run_once rfl (same ▸ asksSerial) second got' ok.2
  have ranFirst : firmware = (.ok (.pair ((RazerReport.fromBytes resp).arguments[0], (RazerReport.fromBytes resp).arguments[1])), t) :=
    ranFirst
  have ranSecond : serial = (((Parse.serial (RazerReport.fromBytes resp')).mapError .proto).map .text, t') := by
    have next : firmware.2 = t := by rw [ranFirst]
    change Op.serial.run H firmware.2 = _
    rw [next]
    exact ranSecond
  have decoded (ascii : ∀ c ∈ shown.serial.toList, c.toNat < 128) :
      serial.1 = .ok (.text (String.ofList (Parse.trimEnd shown.serial.toList))) := by
    rw [shownSerial] at ascii ⊢
    rw [ranSecond, serial_of_shown ascii]
    rfl
  refine ⟨⟨_, _, by rw [ranFirst], ?_⟩, decoded, ?_, ?_, fun proven => ?_⟩
  · have major : (RazerReport.fromBytes resp).arguments[0] = resp.get ⟨8, major_lt⟩ := by simp [RazerReport.fromBytes, Vector.get]
    have minor : (RazerReport.fromBytes resp).arguments[1] = resp.get ⟨9, minor_lt⟩ := by simp [RazerReport.fromBytes, Vector.get]
    rw [shownFirmware, major, minor]
    rfl
  · rw [ranFirst, attempts]
  · rw [ranSecond, attempts']
  · have truth := judge_proven (verdict ▸ proven)
    refine ⟨truth, fun ascii => ?_⟩
    obtain ⟨raw, stripped⟩ := groundTruth_serial truth
    rw [decoded ascii, stripped, trimEnd_strip, String.ofList_toList]

end

/-- A keyboard with a version and a serial to read. -/
def labelled : RegisterFile where
  registers := fun register =>
    if register = (0x00, 0x01) then some (Vector.ofFn fun i => [1, 4].getD i.val 0)
    else if register = (0x00, 0x02) then some (Vector.ofFn fun i => [0x41, 0x37].getD i.val 0)
    else none
  pending := none

theorem verdict_transfers_labelled :
    let firmware := Op.firmwareVersion.run RegisterFile.host (Session.new TABLE[2] labelled)
    (Op.serial.run RegisterFile.host firmware.2).1 = .ok (.text "A7") := by
  have result : (rung1 RegisterFile.host [(none, none), (some "v1.4\n", some "A7\n")] labelled).1 =
      .ok ⟨.proven, "v1.4", "A7"⟩ := by decide +kernel
  obtain ⟨_, _, _, _, proven⟩ := verdict_transfers (H := RegisterFile.host) (fun _ => rfl) (Prog.run_of_fst result) (by decide)
    ⟨_, rfl, by decide +kernel, by decide +kernel⟩ ⟨_, rfl, by decide +kernel, by decide +kernel⟩
  have ascii : ∀ c ∈ "A7".toList, c.toNat < 128 := by
    intro c member
    have letters : c = 'A' ∨ c = '7' := by simpa using member
    rcases letters with rfl | rfl <;> decide
  exact (proven rfl).2 ascii

end ValidateHidraw

end OpenRazer
