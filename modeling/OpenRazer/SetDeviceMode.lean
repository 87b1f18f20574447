import Mathlib.Data.List.Infix
import OpenRazer.Arguments
import OpenRazer.Hotplug
import OpenRazer.Library.Binary64

namespace OpenRazer

/-- The screen in front of the user, and how often the kernel log was read. -/
structure Console where
  world : World := {}
  readings : Nat := 0
  printed : List String := []
deriving DecidableEq

/-- The machine the experiment runs on: its devices, what `journalctl` prints
if it is there to be run, reading by reading, and how long the SET took. -/
structure Desk where
  kernel : Kernel
  journalctl : Nat → String → Option String
  elapsed : Duration

/-- How the watch ends: with a reset after so many seconds, with a count of its own, or without any. -/
inductive Verdict
  | disconnect (second before after : Nat)
  | clean (before after : Nat)
  | silent
deriving DecidableEq

def WATCH_SECONDS : Nat := 90

def JOURNALCTL : List String := ["/usr/bin/journalctl", "/bin/journalctl"]

/-- `hex` of `main.rs`: two digits a byte. -/
def hexBytes {n : Nat} (bytes : Vector UInt8 n) : String :=
  String.join (bytes.toList.map fun byte => hex 2 byte.toNat)

def DeviceMode.debug : DeviceMode → String
  | .normal => "Normal"
  | .driver => "Driver"

namespace SetDeviceMode

def say (lines : List String) : Prog Console CliError Unit :=
  .modify fun c => { c with printed := c.printed ++ lines }

/-- Run a program of the devices alone. -/
def device {α : Type} (p : Prog World CliError α) : Prog Console CliError α := fun c =>
  let run := p c.world
  (run.1, { c with world := run.2 })

def wireLine (wire : WireReport) : String :=
  "  wire             " ++ hexBytes wire

/-- What is printed before anything is opened. -/
def header (entry : DeviceEntry) (node : HidrawNode) (mode : DeviceMode) (tidOverride : Option UInt8) : List String :=
  let tid := tidOverride.getD entry.transactionId
  let request := (Cmd.setDeviceMode mode).withTransactionId tid
  let note := if tidOverride.isSome then "   <-- OVERRIDDEN" else "   (from device table)"
  let warning := if tid = 0xFF then
      ["  *** 0xFF is the value the upstream C driver sends and the value",
        "  *** this project exists to avoid. Expect a firmware reset."]
    else []
  [entry.name ++ " (0x" ++ hexUpper 4 entry.pid.toNat ++ ")",
    "  node             " ++ node.path,
    "  mode             " ++ mode.debug ++ " (0x" ++ hexUpper 2 mode.toU8.toNat ++ ")",
    "  transaction id   0x" ++ hexUpper 2 tid.toNat ++ note] ++ warning ++ [wireLine request.toBytes]

def baseline : Option Nat → List String
  | some b => ["  disconnects before: " ++ Nat.repr b]
  | none => []

/-- What is printed about the SET. -/
def trialLines (trial : Trial) (elapsed : Duration) : List String :=
  let echoed := match trial.echoed with
    | some echoed =>
      let note := if echoed = trial.transactionId then "" else "   <-- DIFFERS"
      ["  echoed txn id    0x" ++ hexUpper 2 echoed.toNat ++ note]
    | none => []
  let result := match trial.result with
    | .ok () => "  result           OK"
    | .error e => "  result           ERROR: " ++ e.toString
  ["  attempts         " ++ Nat.repr trial.attempts,
    "  elapsed          " ++ Binary64.fixed 3 (.mul (.ofNanos elapsed.nanos) 1000) ++ " ms"] ++ echoed ++ [result]

/-- The last lines of a run. -/
def verdictLines : Verdict → List String
  | .disconnect i b a =>
    ["  *** USB DISCONNECT after " ++ Nat.repr i ++ " s (count " ++ Nat.repr b ++ " -> " ++ Nat.repr a ++ ")",
      "  *** replug the keyboard. This transaction id is NOT safe."]
  | .clean b a =>
    ["  disconnects after:  " ++ Nat.repr a ++ " (was " ++ Nat.repr b ++ ") — no reset within " ++
        Nat.repr WATCH_SECONDS ++ " s",
      "  (the observed range is 4-73 s, so this window clears it — but see below)",
      "\n  NOTE: one trial is not the experiment. See docs/phase3-experiment.md."]
  | .silent => ["\n  NOTE: one trial is not the experiment. See docs/phase3-experiment.md."]

end SetDeviceMode

namespace Desk

open SetDeviceMode

variable (desk : Desk)

/-- Lines of the kernel log that say so. -/
def disconnects (log : String) : Nat :=
  (log.toList.splitOn '\n').countP fun line => "USB disconnect".toList <:+: line

/-- The count at the `n`-th reading: of the first `journalctl` that runs. -/
def reading (n : Nat) : Option Nat :=
  (JOURNALCTL.findSome? (desk.journalctl n)).map disconnects

def disconnectCount : Prog Console CliError (Option Nat) := fun c =>
  (.ok (desk.reading c.readings), { c with readings := c.readings + 1 })

/-- One second of the watch. -/
def watchSecond (before : Option Nat) (i : Nat) (_ : Unit) : Prog Console CliError (Verdict ⊕ Unit) := do
  let after ← desk.disconnectCount
  match before, after with
  | some b, some a =>
    if a > b then do
      say (verdictLines (.disconnect i b a))
      return .inl (.disconnect i b a)
    else return .inr ()
  | _, _ => return .inr ()

/-- The watch. The reading at its end is not compared with anything. -/
def watch (before : Option Nat) : Prog Console CliError Verdict := do
  say ["\n  watching for " ++ Nat.repr WATCH_SECONDS ++ " s ..."]
  match ← Prog.loop (desk.watchSecond before) WATCH_SECONDS 1 () with
  | .inl verdict => return verdict
  | .inr () => do
    let after ← desk.disconnectCount
    match before, after with
    | some b, some a => do
      say (verdictLines (.clean b a))
      return .clean b a
    | _, _ => do
      say (verdictLines .silent)
      return .silent

/-- `set_device_mode` behind its arguments. -/
def experiment (mode : DeviceMode) (tidOverride : Option UInt8) : Prog Console CliError Verdict := do
  let pid : UInt16 := 0x028D
  match lookup pid with
  | none => .fail (.text "BlackWidow V4 Pro not in device table")
  | some entry => do
    let node ← device ((findDevice desk.kernel.sysfs RAZER_VID pid entry.reportIndex).mapError .hid)
    say (header entry node mode tidOverride)
    let before ← desk.disconnectCount
    say (baseline before)
    let transport ← device ((desk.kernel.openExpecting entry node.path RAZER_VID pid).mapError .hid)
    let trial ← device (desk.kernel.trySetting entry mode tidOverride node transport)
    say (trialLines trial desk.elapsed)
    desk.watch before

/-- `set_device_mode`: writes the operating mode and watches what becomes of it. -/
def setDeviceMode (args : List String) : Prog Console CliError Verdict := do
  let (mode, tidOverride) ← Prog.lift (arguments args)
  desk.experiment mode tidOverride

variable {desk}

section

variable {before : Option Nat}

/-- The reading is there, so is the baseline, and the count went up. -/
def Exceeds (before after : Option Nat) : Prop :=
  ∃ b a, before = some b ∧ after = some a ∧ b < a

/-- A second of the watch ends it, or leaves nothing but one more reading. -/
theorem watchSecond_spec (before : Option Nat) (i : Nat) (c : Console) :
    (∃ b a, before = some b ∧ desk.reading c.readings = some a ∧ b < a ∧
      desk.watchSecond before i () c = (.ok (.inl (.disconnect i b a)),
        { c with readings := c.readings + 1, printed := c.printed ++ verdictLines (.disconnect i b a) })) ∨
    ¬Exceeds before (desk.reading c.readings) ∧
      desk.watchSecond before i () c = (.ok (.inr ()), { c with readings := c.readings + 1 }) := by
  have counts : desk.disconnectCount c = (.ok (desk.reading c.readings), { c with readings := c.readings + 1 }) := rfl
  unfold watchSecond
  rw [Prog.bind_of_ok counts]
  cases first : before with
  | none =>
    refine Or.inr ⟨?_, rfl⟩
    rintro ⟨b, a, there, _⟩
    cases there
  | some b =>
    cases second : desk.reading c.readings with
    | none =>
      refine Or.inr ⟨?_, rfl⟩
      rintro ⟨b, a, _, there, _⟩
      cases there
    | some a =>
      by_cases more : b < a
      · refine Or.inl ⟨b, a, rfl, rfl, more, ?_⟩
        simp only [gt_iff_lt, if_pos more]
        rfl
      · refine Or.inr ⟨?_, ?_⟩
        · rintro ⟨b', a', rfl', rfl'', more'⟩
          obtain rfl := Option.some.inj rfl'
          obtain rfl := Option.some.inj rfl''
          exact more more'
        · simp only [gt_iff_lt, if_neg more]
          rfl

/-- The loop stops at the first second whose reading exceeds the baseline. -/
theorem loop_watch (n i : Nat) (c : Console) :
    (∃ k b a, k < n ∧ before = some b ∧ desk.reading (c.readings + k) = some a ∧ b < a ∧
      (∀ j < k, ¬Exceeds before (desk.reading (c.readings + j))) ∧
      Prog.loop (desk.watchSecond before) n i () c = (.ok (.inl (.disconnect (i + k) b a)),
        { c with readings := c.readings + k + 1, printed := c.printed ++ verdictLines (.disconnect (i + k) b a) })) ∨
    (∀ j < n, ¬Exceeds before (desk.reading (c.readings + j))) ∧
      Prog.loop (desk.watchSecond before) n i () c = (.ok (.inr ()), { c with readings := c.readings + n }) := by
  induction n generalizing i c with
  | zero => exact Or.inr ⟨fun j bound => absurd bound (Nat.not_lt_zero j), rfl⟩
  | succ n ih =>
    rw [Prog.loop]
    rcases watchSecond_spec before i c with ⟨b, a, there, taken, more, here⟩ | ⟨quiet, here⟩
    · refine Or.inl ⟨0, b, a, Nat.succ_pos n, there, taken, more, fun j bound => absurd bound (Nat.not_lt_zero j), ?_⟩
      rw [Prog.bind_of_ok here]
      rfl
    · rw [Prog.bind_of_ok here]
      have earlier {m : Nat} (later : ∀ j < m, ¬Exceeds before (desk.reading (c.readings + 1 + j))) :
          ∀ j < m + 1, ¬Exceeds before (desk.reading (c.readings + j)) := by
        intro j bound
        cases j with
        | zero => exact quiet
        | succ j =>
          have next := later j (Nat.lt_of_succ_lt_succ bound)
          rwa [Nat.add_assoc, Nat.add_comm 1 j] at next
      rcases ih (i + 1) { c with readings := c.readings + 1 } with ⟨k, b, a, bound, there, taken, more, quiets, ends⟩ | ⟨quiets, ends⟩
      · have count : c.readings + 1 + k = c.readings + (k + 1) := by omega
        have second : i + 1 + k = i + (k + 1) := by omega
        simp only [count, second] at taken ends
        exact Or.inl ⟨k + 1, b, a, Nat.succ_lt_succ bound, there, taken, more, earlier quiets, ends⟩
      · have count : c.readings + 1 + n = c.readings + (n + 1) := by omega
        simp only [count] at ends
        exact Or.inr ⟨earlier quiets, ends⟩

end

def watching : String :=
  "\n  watching for " ++ Nat.repr WATCH_SECONDS ++ " s ..."

/-- What the watch makes of the baseline and of the readings 1 to 91 after it. -/
inductive Judged (before : Option Nat) (after : Nat → Option Nat) : Verdict → Prop
  | disconnect {i b a} : 1 ≤ i → i ≤ WATCH_SECONDS → before = some b → after i = some a → b < a →
      Judged before after (.disconnect i b a)
  | clean {b a} : (∀ i, 1 ≤ i → i ≤ WATCH_SECONDS → ¬Exceeds before (after i)) → before = some b →
      after (WATCH_SECONDS + 1) = some a → Judged before after (.clean b a)
  | silent : (∀ i, 1 ≤ i → i ≤ WATCH_SECONDS → ¬Exceeds before (after i)) →
      (∀ b a, before = some b → after (WATCH_SECONDS + 1) ≠ some a) → Judged before after .silent

theorem watch_spec (before : Option Nat) {c : Console} {n : Nat} (started : c.readings = n + 1) :
    ∃ verdict c', desk.watch before c = (.ok verdict, c') ∧ c'.world = c.world ∧
      c'.printed = c.printed ++ watching :: verdictLines verdict ∧ Judged before (fun i => desk.reading (n + i)) verdict := by
  have announced : say [watching] c = (.ok (), { c with printed := c.printed ++ [watching] }) := rfl
  have shift (j : Nat) : n + 1 + j = n + (j + 1) := by omega
  have begins : desk.watch before c = _ := Prog.bind_of_ok announced
  rcases loop_watch WATCH_SECONDS 1 { c with printed := c.printed ++ [watching] } with
    ⟨k, b, a, bound, there, taken, more, _, ends⟩ | ⟨quiets, ends⟩
  · simp only [started, shift] at taken
    rw [Prog.bind_of_ok ends] at begins
    refine ⟨_, _, begins, rfl, List.append_assoc .., ?_⟩
    rw [Nat.add_comm 1 k]
    exact .disconnect (Nat.le_add_left 1 k) bound there taken more
  · simp only [started, shift] at quiets
    have quiet (i : Nat) (first : 1 ≤ i) (last : i ≤ WATCH_SECONDS) : ¬Exceeds before (desk.reading (n + i)) := by
      obtain ⟨j, rfl⟩ := Nat.exists_eq_add_of_le' first
      exact quiets j last
    have counts : desk.disconnectCount { c with readings := c.readings + WATCH_SECONDS, printed := c.printed ++ [watching] } =
        (.ok (desk.reading (n + (WATCH_SECONDS + 1))),
          { c with readings := c.readings + WATCH_SECONDS + 1, printed := c.printed ++ [watching] }) := by
      rw [disconnectCount, started, shift]
    rw [Prog.bind_of_ok ends] at begins
    have final : desk.watch before c = _ := begins.trans (Prog.bind_of_ok counts)
    cases first : before with
    | none =>
      rw [first] at final quiet
      exact ⟨_, _, final, rfl, List.append_assoc .., .silent quiet fun b a there => by cases there⟩
    | some b =>
      rw [first] at final quiet
      cases last : desk.reading (n + (WATCH_SECONDS + 1)) with
      | none =>
        rw [last] at final
        refine ⟨_, _, final, rfl, List.append_assoc .., .silent quiet fun b a _ there => ?_⟩
        rw [last] at there
        cases there
      | some a =>
        rw [last] at final
        exact ⟨_, _, final, rfl, List.append_assoc .., .clean quiet rfl last⟩

/-- The keyboard that the command is about. -/
def keyboard : DeviceEntry := TABLE[2]

theorem lookup_keyboard : lookup 0x028D = some keyboard := rfl

/-- How a run goes on behind its arguments: no node, a node that is not opened, or a trial and its watch. -/
inductive Ran (desk : Desk) (mode : DeviceMode) (tidOverride : Option UInt8) (c : Console) :
    Except CliError Verdict → Console → Prop
  | unlocated {e w} : findDevice desk.kernel.sysfs RAZER_VID 0x028D keyboard.reportIndex c.world = (.error e, w) →
      Ran desk mode tidOverride c (.error (.hid e)) { c with world := w }
  | refused {node e w w' c'} :
      findDevice desk.kernel.sysfs RAZER_VID 0x028D keyboard.reportIndex c.world = (.ok node, w) →
      desk.kernel.openExpecting keyboard node.path RAZER_VID 0x028D w = (.error e, w') → c'.world = w' →
      c'.printed = c.printed ++ (header keyboard node mode tidOverride ++ baseline (desk.reading c.readings)) →
      Ran desk mode tidOverride c (.error (.hid e)) c'
  | tried {node dev trial verdict w w' c'} :
      findDevice desk.kernel.sysfs RAZER_VID 0x028D keyboard.reportIndex c.world = (.ok node, w) →
      desk.kernel.openExpecting keyboard node.path RAZER_VID 0x028D w = (.ok dev, w') →
      desk.kernel.trySetting keyboard mode tidOverride node dev w' = (.ok trial, c'.world) →
      c'.printed = c.printed ++ (header keyboard node mode tidOverride ++ baseline (desk.reading c.readings) ++
        trialLines trial desk.elapsed ++ watching :: verdictLines verdict) →
      Judged (desk.reading c.readings) (fun i => desk.reading (c.readings + i)) verdict →
      Ran desk mode tidOverride c (.ok verdict) c'

theorem device_of_ok {α : Type} {p : Prog World CliError α} {c : Console} {a : α} {w : World}
    (run : p c.world = (.ok a, w)) : device p c = (.ok a, { c with world := w }) := by
  simp only [device, run]

theorem device_of_error {α : Type} {p : Prog World CliError α} {c : Console} {e : CliError} {w : World}
    (run : p c.world = (.error e, w)) : device p c = (.error e, { c with world := w }) := by
  simp only [device, run]

theorem experiment_ran (mode : DeviceMode) (tidOverride : Option UInt8) (c : Console) :
    Ran desk mode tidOverride c (desk.experiment mode tidOverride c).1 (desk.experiment mode tidOverride c).2 := by
  have prints (lines : List String) (c : Console) : say lines c = (.ok (), { c with printed := c.printed ++ lines }) := rfl
  have counts (c : Console) : desk.disconnectCount c =
      (.ok (desk.reading c.readings), { c with readings := c.readings + 1 }) := rfl
  rcases finds : findDevice desk.kernel.sysfs RAZER_VID 0x028D keyboard.reportIndex c.world with ⟨e | node, w⟩
  · have run : desk.experiment mode tidOverride c = (.error (.hid e), { c with world := w }) := by
      simp only [experiment, lookup_keyboard]
      exact Prog.bind_of_error (device_of_error (Prog.mapError_of_error finds))
    rw [run]
    exact .unlocated finds
  · have located : desk.experiment mode tidOverride c = _ := Prog.bind_of_ok (device_of_ok (Prog.mapError_of_ok finds))
    have begins := located.trans
      ((Prog.bind_of_ok (prints ..)).trans ((Prog.bind_of_ok (counts _)).trans (Prog.bind_of_ok (prints ..))))
    rcases opens : desk.kernel.openExpecting keyboard node.path RAZER_VID 0x028D w with ⟨e | dev, w'⟩
    · have run := begins.trans (Prog.bind_of_error (device_of_error (Prog.mapError_of_error opens)))
      rw [run]
      exact .refused finds opens rfl (List.append_assoc ..)
    · obtain ⟨trial, w'', tries, _⟩ := desk.kernel.trySetting_feeds keyboard mode tidOverride node dev w'
      have middle := begins.trans (Prog.bind_of_ok (device_of_ok (Prog.mapError_of_ok opens)))
      rw [Prog.bind_of_ok (device_of_ok tries), Prog.bind_of_ok (prints ..)] at middle
      obtain ⟨verdict, c', watched, world, printed, judged⟩ :=
        watch_spec (desk.reading c.readings) (n := c.readings)
          (c := { world := w'', readings := c.readings + 1, printed := c.printed ++ header keyboard node mode tidOverride ++
            baseline (desk.reading c.readings) ++ trialLines trial desk.elapsed }) rfl
      have left : desk.kernel.trySetting keyboard mode tidOverride node dev w' = (.ok trial, c'.world) := by
        rw [world]
        exact tries
      rw [middle.trans watched]
      refine .tried finds opens left ?_ judged
      rw [printed]
      simp only [List.append_assoc]

/-- Beside its screen the command is the trial it is modelled as elsewhere. -/
theorem experiment_refines (mode : DeviceMode) (tidOverride : Option UInt8) (c : Console) :
    (desk.experiment mode tidOverride c).2.world = (desk.kernel.deviceModeTrial mode tidOverride c.world).2 ∧
      ∀ e, (desk.experiment mode tidOverride c).1 = .error e ↔
        (desk.kernel.deviceModeTrial mode tidOverride c.world).1 = .error e := by
  have ran : desk.Ran mode tidOverride c _ _ := experiment_ran mode tidOverride c
  generalize (desk.experiment mode tidOverride c).1 = result at ran ⊢
  generalize (desk.experiment mode tidOverride c).2 = c' at ran ⊢
  cases ran with
  | unlocated finds =>
    have run : desk.kernel.deviceModeTrial mode tidOverride c.world = _ := Prog.bind_of_error (Prog.mapError_of_error finds)
    rw [run]
    exact ⟨rfl, fun _ => by simp only [Except.error.injEq]⟩
  | refused finds opens world =>
    have run : desk.kernel.deviceModeTrial mode tidOverride c.world = _ :=
      (Prog.bind_of_ok (Prog.mapError_of_ok finds)).trans (Prog.bind_of_error (Prog.mapError_of_error opens))
    rw [run]
    exact ⟨world, fun _ => by simp only [Except.error.injEq]⟩
  | tried finds opens tries =>
    have run : desk.kernel.deviceModeTrial mode tidOverride c.world = _ :=
      (Prog.bind_of_ok (Prog.mapError_of_ok finds)).trans ((Prog.bind_of_ok (Prog.mapError_of_ok opens)).trans tries)
    rw [run]
    exact ⟨rfl, fun _ => by simp only [reduceCtorEq]⟩

end Desk

namespace Kernel

variable (K : Kernel)

/-- One exchange hands the device its frame once. -/
theorem exchange_delivered (entry : DeviceEntry) (dev : HidrawDevice) (wait : Duration) (buf : Frame) (w : World) :
    ((K.host entry dev).exchange wait buf w).2.delivered = w.delivered ++ [⟨entry, dev.file, buf⟩] := by
  have set : ((K.host entry dev).setFeature w buf).2.delivered = w.delivered ++ [⟨entry, dev.file, buf⟩] := rfl
  unfold Host.exchange
  rcases call : (K.host entry dev).setFeature w buf with ⟨e | _, w₁⟩
  · rw [call] at set
    exact set
  · rw [call] at set
    have get : ((K.host entry dev).getFeature ((K.host entry dev).sleep w₁ wait) (Vector.replicate 91 0)).2.2.delivered =
        w.delivered ++ [⟨entry, dev.file, buf⟩] := set
    simp only
    rcases answer : (K.host entry dev).getFeature ((K.host entry dev).sleep w₁ wait) (Vector.replicate 91 0) with
      ⟨e | got, reply, w₂⟩
    · rw [answer] at get
      exact get
    · rw [answer] at get
      exact get

theorem retry_delivered (entry : DeviceEntry) (dev : HidrawDevice) (request : RazerReport) (wait : Duration) (buf : Frame)
    (n : Nat) (w : World) :
    ∃ k, ((K.host entry dev).retry request wait buf n w).2.delivered =
      w.delivered ++ List.replicate (k + 1) ⟨entry, dev.file, buf⟩ := by
  induction n generalizing w with
  | zero => exact ⟨0, K.exchange_delivered entry dev wait buf w⟩
  | succ n ih =>
    have here := K.exchange_delivered entry dev wait buf w
    by_cases rejected : (((K.host entry dev).exchange wait buf w).1.rejection request).isSome
    · obtain ⟨k, later⟩ := ih ((K.host entry dev).sleep ((K.host entry dev).exchange wait buf w).2 RETRY_DELAY)
      refine ⟨k + 1, ?_⟩
      rw [Host.retry_again rejected]
      refine later.trans ?_
      rw [show ((K.host entry dev).sleep ((K.host entry dev).exchange wait buf w).2 RETRY_DELAY).delivered = _ from here,
        List.append_assoc, List.replicate_succ]
      rfl
    · rw [Host.retry_settled rejected]
      exact ⟨0, here⟩

/-- A mode that the entry's guard lets through goes out, once or more. -/
theorem setDeviceMode_delivered (entry : DeviceEntry) (dev : HidrawDevice) (mode : DeviceMode) {s : Session World}
    (capable : s.entry.capabilities.contains .DEVICE_MODE = true) :
    ∃ k, (Session.setDeviceMode (K.host entry dev) mode s).2.world.delivered = s.world.delivered ++
      List.replicate (k + 1) ⟨entry, dev.file, hidrawBuf ((Cmd.setDeviceMode mode).withTransactionId s.transactionId)⟩ := by
  have typed : (Op.setDeviceMode mode).typed = true := rfl
  have run : (Session.setDeviceMode (K.host entry dev) mode s).2 = ((Op.setDeviceMode mode).run (K.host entry dev) s).2 := by
    rw [Op.run, Prog.snd_bind_pure]
  have asks : (Op.setDeviceMode mode).request s.entry = .ok (Cmd.setDeviceMode mode) := by
    simp only [Op.request, Op.allowed, if_pos capable]
    rfl
  obtain ⟨accepted, _⟩ := Op.request_typed typed asks
  obtain ⟨k, delivered⟩ :=
    K.retry_delivered entry dev (Cmd.setDeviceMode mode) s.entry.wait (s.wire (Cmd.setDeviceMode mode)) 4 s.world
  refine ⟨k, ?_⟩
  rw [run, Op.run_typed typed, asks]
  simp only [Op.transacted, Session.transact_accepted accepted]
  exact delivered

/-- The session's frames are the encoding of the request that is printed. -/
theorem trySetting_frames {entry : DeviceEntry} {mode : DeviceMode} {tidOverride : Option UInt8} {node : HidrawNode}
    {dev : HidrawDevice} {trial : Trial} {w w' : World} (capable : entry.capabilities.contains .DEVICE_MODE = true)
    (tries : K.trySetting entry mode tidOverride node dev w = (.ok trial, w')) :
    ∃ k, w'.delivered = w.delivered ++ List.replicate (k + 1) ⟨entry, dev.file,
      hidrawBuf ((Cmd.setDeviceMode mode).withTransactionId (tidOverride.getD entry.transactionId))⟩ := by
  cases tidOverride with
  | none =>
    obtain rfl : (Session.setDeviceMode (K.host entry dev) mode (Session.new entry w)).2.world = w' := congrArg Prod.snd tries
    exact K.setDeviceMode_delivered entry dev mode (s := Session.new entry w) capable
  | some id =>
    obtain rfl : (Session.setDeviceMode (K.host entry dev) mode ((Session.new entry w).withTransactionIdOverride id)).2.world = w' :=
      congrArg Prod.snd tries
    exact K.setDeviceMode_delivered entry dev mode (s := (Session.new entry w).withTransactionIdOverride id) capable

end Kernel

namespace SetDeviceMode

/-- What a line begins with. -/
def lead (line : String) : List Char :=
  line.toList.take 16

/-- How the lines in front of the verdict begin, but for the one about the wire. -/
def LEADS : List (List Char) :=
  ["Razer BlackWidow", "  node          ", "  mode          ", "  transaction id", "  *** 0xFF is th", "  *** this proje",
    "  disconnects be", "  attempts      ", "  elapsed       ", "  echoed txn id ", "  result        "].map String.toList

theorem lead_append {front rest : String} (long : 16 ≤ front.toList.length) : lead (front ++ rest) = lead front := by
  rw [lead, String.toList_append, List.take_append_of_le_length long, lead]

theorem lead_of_starts {front line : String} (starts : front.toList <+: line.toList) (long : 16 ≤ front.toList.length) :
    lead line = lead front := by
  obtain ⟨rest, split⟩ := starts
  rw [lead, ← split, List.take_append_of_le_length long, lead]

theorem length_of_known {front : String} (known : lead front ∈ LEADS) : 16 ≤ front.toList.length := by
  have full : ∀ start ∈ LEADS, start.length = 16 := by decide +kernel
  have taken := full _ known
  rw [lead, List.length_take] at taken
  omega

theorem lead_mem {line rest : String} (front : String) (split : line = front ++ rest) (known : lead front ∈ LEADS) :
    lead line ∈ LEADS := by
  rw [split, lead_append (length_of_known known)]
  exact known

/-- The header ends with the line about the wire, and has no other. -/
theorem header_split (node : HidrawNode) (mode : DeviceMode) (tidOverride : Option UInt8) :
    ∃ front, header Desk.keyboard node mode tidOverride = front ++
        [wireLine ((Cmd.setDeviceMode mode).withTransactionId (tidOverride.getD Desk.keyboard.transactionId)).toBytes] ∧
      ∀ line ∈ front, lead line ∈ LEADS := by
  refine ⟨_, rfl, fun line front => ?_⟩
  rcases List.mem_append.mp front with labels | warning
  · rcases List.mem_cons.mp labels with rfl | labels
    · exact lead_mem Desk.keyboard.name (by rw [String.append_assoc, String.append_assoc]) (by decide +kernel)
    rcases List.mem_cons.mp labels with rfl | labels
    · exact lead_mem "  node             " rfl (by decide +kernel)
    rcases List.mem_cons.mp labels with rfl | labels
    · exact lead_mem "  mode             " (by rw [String.append_assoc, String.append_assoc, String.append_assoc])
        (by decide +kernel)
    obtain rfl := List.mem_singleton.mp labels
    exact lead_mem "  transaction id   0x" (String.append_assoc ..) (by decide +kernel)
  · split at warning
    · rcases List.mem_cons.mp warning with rfl | warning
      · decide +kernel
      obtain rfl := List.mem_singleton.mp warning
      decide +kernel
    · cases warning

theorem lead_header {node : HidrawNode} {mode : DeviceMode} {tidOverride : Option UInt8} {line : String}
    (member : line ∈ header Desk.keyboard node mode tidOverride) :
    line = wireLine ((Cmd.setDeviceMode mode).withTransactionId (tidOverride.getD Desk.keyboard.transactionId)).toBytes ∨
      lead line ∈ LEADS := by
  obtain ⟨front, split, known⟩ := header_split node mode tidOverride
  rw [split, List.mem_append, List.mem_singleton] at member
  exact member.symm.imp_right (known line)

theorem lead_baseline {before : Option Nat} {line : String} (member : line ∈ baseline before) : lead line ∈ LEADS := by
  cases before with
  | none => cases member
  | some b =>
    obtain rfl := List.mem_singleton.mp member
    exact lead_mem "  disconnects before: " rfl (by decide +kernel)

theorem lead_trialLines {trial : Trial} {elapsed : Duration} {line : String} (member : line ∈ trialLines trial elapsed) :
    lead line ∈ LEADS := by
  rcases List.mem_append.mp member with front | result
  · rcases List.mem_append.mp front with labels | echoed
    · rcases List.mem_cons.mp labels with rfl | labels
      · exact lead_mem "  attempts         " rfl (by decide +kernel)
      obtain rfl := List.mem_singleton.mp labels
      exact lead_mem "  elapsed          " (String.append_assoc ..) (by decide +kernel)
    · split at echoed
      · obtain rfl := List.mem_singleton.mp echoed
        exact lead_mem "  echoed txn id    0x" (String.append_assoc ..) (by decide +kernel)
      · cases echoed
  · obtain rfl := List.mem_singleton.mp result
    split
    · decide +kernel
    · exact lead_mem "  result           ERROR: " rfl (by decide +kernel)

/-- The lines in front of the verdict. -/
theorem lead_before {node : HidrawNode} {mode : DeviceMode} {tidOverride : Option UInt8} {before : Option Nat}
    {trial : Trial} {elapsed : Duration} {line : String}
    (member : line ∈ header Desk.keyboard node mode tidOverride ++ baseline before ++ trialLines trial elapsed) :
    line = wireLine ((Cmd.setDeviceMode mode).withTransactionId (tidOverride.getD Desk.keyboard.transactionId)).toBytes ∨
      lead line ∈ LEADS := by
  rcases List.mem_append.mp member with front | trial
  · rcases List.mem_append.mp front with header | baseline
    · exact lead_header header
    · exact Or.inr (lead_baseline baseline)
  · exact Or.inr (lead_trialLines trial)

def WIRE : String := "  wire             "

/-- A line that says what goes over the wire. -/
def IsWireLine (line : String) : Prop :=
  WIRE.toList <+: line.toList

instance : DecidablePred IsWireLine :=
  fun _ => inferInstanceAs (Decidable (_ <+: _))

/-- The lines about the wire. -/
def wireLines (lines : List String) : List String :=
  lines.filter fun line => decide (IsWireLine line)

theorem mem_wireLines {line : String} {lines : List String} : line ∈ wireLines lines ↔ line ∈ lines ∧ IsWireLine line := by
  rw [wireLines, List.mem_filter, decide_eq_true_eq]

theorem wireLines_none {lines : List String} (others : ∀ line ∈ lines, lead line ≠ lead WIRE) : wireLines lines = [] := by
  refine List.filter_eq_nil_iff.mpr fun line member => ?_
  rw [decide_eq_true_eq]
  exact fun wire => others line member (lead_of_starts wire (by decide))

theorem ne_wire_of_known {line : String} (known : lead line ∈ LEADS) : lead line ≠ lead WIRE := by
  intro same
  rw [same] at known
  exact absurd known (by decide)

theorem wireLines_singleton (wire : WireReport) : wireLines [wireLine wire] = [wireLine wire] := by
  refine List.filter_eq_self.mpr fun line member => ?_
  rw [List.mem_singleton.mp member, decide_eq_true_eq]
  exact ⟨(hexBytes wire).toList, (String.toList_append ..).symm⟩

theorem wireLines_append (lines lines' : List String) : wireLines (lines ++ lines') = wireLines lines ++ wireLines lines' :=
  List.filter_append ..

theorem wireLines_header (node : HidrawNode) (mode : DeviceMode) (tidOverride : Option UInt8) :
    wireLines (header Desk.keyboard node mode tidOverride) =
      [wireLine ((Cmd.setDeviceMode mode).withTransactionId (tidOverride.getD Desk.keyboard.transactionId)).toBytes] := by
  obtain ⟨front, split, known⟩ := header_split node mode tidOverride
  have before : wireLines front = [] := wireLines_none fun line member => ne_wire_of_known (known line member)
  rw [split, wireLines_append, before, wireLines_singleton, List.nil_append]

/-- How the lines from the watch on begin. -/
def verdictLeads : Verdict → List (List Char)
  | .disconnect .. => ["\n  watching for ", "  *** USB DISCON", "  *** replug the"].map String.toList
  | .clean .. =>
    ["\n  watching for ", "  disconnects af", "  (the observed ", "\n  NOTE: one tri"].map String.toList
  | .silent => ["\n  watching for ", "\n  NOTE: one tri"].map String.toList

theorem lead_verdict {verdict : Verdict} {line : String} (member : line ∈ Desk.watching :: verdictLines verdict) :
    lead line ∈ verdictLeads verdict := by
  have started : lead Desk.watching = "\n  watching for ".toList := by
    change lead ("\n  watching for " ++ Nat.repr WATCH_SECONDS ++ " s ...") = _
    rw [String.append_assoc, lead_append (by decide)]
    decide +kernel
  have reset (i b a : Nat) : lead ("  *** USB DISCONNECT after " ++ Nat.repr i ++ " s (count " ++ Nat.repr b ++ " -> " ++
      Nat.repr a ++ ")") = "  *** USB DISCON".toList := by
    simp only [String.append_assoc]
    rw [lead_append (by decide)]
    decide +kernel
  have none (b a : Nat) : lead ("  disconnects after:  " ++ Nat.repr a ++ " (was " ++ Nat.repr b ++ ") — no reset within " ++
      Nat.repr WATCH_SECONDS ++ " s") = "  disconnects af".toList := by
    simp only [String.append_assoc]
    rw [lead_append (by decide)]
    decide +kernel
  rcases List.mem_cons.mp member with rfl | member
  · rw [started]
    cases verdict <;> exact List.mem_cons_self ..
  · cases verdict with
    | disconnect i b a =>
      simp only [verdictLeads]
      rcases List.mem_cons.mp member with rfl | member
      · rw [reset]
        decide +kernel
      obtain rfl := List.mem_singleton.mp member
      decide +kernel
    | clean b a =>
      simp only [verdictLeads]
      rcases List.mem_cons.mp member with rfl | member
      · rw [none]
        decide +kernel
      rcases List.mem_cons.mp member with rfl | member
      · decide +kernel
      obtain rfl := List.mem_singleton.mp member
      decide +kernel
    | silent =>
      obtain rfl := List.mem_singleton.mp member
      decide +kernel

theorem wireLines_verdict (verdict : Verdict) : wireLines (Desk.watching :: verdictLines verdict) = [] := by
  refine wireLines_none fun line member same => ?_
  have known := lead_verdict member
  rw [same] at known
  cases verdict with
  | disconnect _ _ _ | clean _ _ | silent =>
    simp only [verdictLeads] at known
    exact absurd known (by decide)

end SetDeviceMode

namespace Desk

open SetDeviceMode

variable (desk : Desk)

/-- What goes to a device under which id is what the one wire line of the run
says. There is such a line once the keyboard is found, and a frame once it is open. -/
theorem experiment_frames (mode : DeviceMode) (tidOverride : Option UInt8) (c : Console) :
    let request := (Cmd.setDeviceMode mode).withTransactionId (tidOverride.getD keyboard.transactionId)
    ∃ frames lines, (desk.experiment mode tidOverride c).2.world.delivered = c.world.delivered ++ frames ∧
      (desk.experiment mode tidOverride c).2.printed = c.printed ++ lines ∧
      (∀ d ∈ frames, d.buf = hidrawBuf request ∧ wireLines lines = [wireLine d.buf.report]) ∧
      ∀ node w, findDevice desk.kernel.sysfs RAZER_VID 0x028D keyboard.reportIndex c.world = (.ok node, w) →
        wireLines lines = [wireLine request.toBytes] ∧
          ∀ dev w', desk.kernel.openExpecting keyboard node.path RAZER_VID 0x028D w = (.ok dev, w') → frames ≠ [] := by
  intro request
  have ran : desk.Ran mode tidOverride c _ _ := experiment_ran mode tidOverride c
  have located := desk.kernel.findDevice_quiet RAZER_VID 0x028D keyboard.reportIndex c.world
  have front (node : HidrawNode) : wireLines (header keyboard node mode tidOverride ++ baseline (desk.reading c.readings)) =
      [wireLine request.toBytes] := by
    have after := wireLines_none fun line (member : line ∈ baseline (desk.reading c.readings)) =>
      ne_wire_of_known (lead_baseline member)
    rw [wireLines_append, after, List.append_nil]
    exact wireLines_header node mode tidOverride
  generalize (desk.experiment mode tidOverride c).1 = result at ran
  generalize (desk.experiment mode tidOverride c).2 = c' at ran ⊢
  cases ran with
  | unlocated finds =>
    rw [finds] at located
    refine ⟨[], [], ?_, (List.append_nil _).symm, nofun, fun node w found => ?_⟩
    · rw [located.2, List.append_nil]
    · rw [finds] at found
      cases found
  | refused finds opens world printed =>
    rw [finds] at located
    refine ⟨[], _, ?_, printed, nofun, fun node w found => ⟨front _, fun dev w' opened => ?_⟩⟩
    · rw [world, (desk.kernel.refused_traced opens).2, located.2, List.append_nil]
    · obtain ⟨node', rest⟩ := Prod.mk.inj (finds.symm.trans found)
      obtain rfl := Except.ok.inj node'
      obtain rfl := rest
      rw [opens] at opened
      cases opened
  | @tried node dev trial verdict w w' c' finds opens tries printed judged =>
    rw [finds] at located
    obtain ⟨_, silent, _⟩ := desk.kernel.openExpecting_spec keyboard node.path RAZER_VID 0x028D w
    rw [opens] at silent
    obtain ⟨k, delivered⟩ := desk.kernel.trySetting_frames rfl tries
    rw [silent, located.2] at delivered
    have one : wireLines (header keyboard node mode tidOverride ++ baseline (desk.reading c.readings) ++
        trialLines trial desk.elapsed ++ watching :: verdictLines verdict) = [wireLine request.toBytes] := by
      have trial := wireLines_none fun line (member : line ∈ trialLines trial desk.elapsed) =>
        ne_wire_of_known (lead_trialLines member)
      have verdict := wireLines_verdict verdict
      rw [wireLines_append, wireLines_append, front node, trial, verdict, List.append_nil, List.append_nil]
    refine ⟨_, _, delivered, printed, fun d member => ?_, fun node w found => ⟨one, fun dev w' opened => by simp⟩⟩
    obtain ⟨_, same⟩ := List.mem_replicate.mp member
    have buf := congrArg Delivery.buf same
    have encoded := (congrArg Frame.report buf).trans (report_hidrawBuf _)
    rw [encoded]
    exact ⟨buf, one⟩

/-- Refused arguments leave everything as it was. -/
theorem setDeviceMode_refused {args : List String} (refused : ¬∃ mode tidOverride, Accepted args mode tidOverride) :
    ∃ e, ∀ c, desk.setDeviceMode args c = (.error e, c) := by
  cases read : arguments args with
  | error e =>
    refine ⟨e, fun c => ?_⟩
    rw [setDeviceMode, read]
    rfl
  | ok parsed => exact absurd ⟨parsed.1, parsed.2, arguments_eq_ok.mp read⟩ refused

theorem setDeviceMode_accepted {args : List String} {mode : DeviceMode} {tidOverride : Option UInt8}
    (accepted : Accepted args mode tidOverride) : desk.setDeviceMode args = desk.experiment mode tidOverride := by
  rw [setDeviceMode, arguments_eq_ok.mpr accepted]
  rfl

/-- Which arguments get through: three independent scans, blind to anything they do not look for. -/
theorem setDeviceMode_accepts (args : List String) :
    (∀ mode tidOverride, arguments args = .ok (mode, tidOverride) ↔ Accepted args mode tidOverride) ∧
    ((¬∃ mode tidOverride, Accepted args mode tidOverride) → ∃ e, ∀ c, desk.setDeviceMode args c = (.error e, c)) ∧
    (∀ mode tidOverride, Accepted args mode tidOverride →
      (tidOverride = none ↔ TRANSACTION_ID ∉ args) ∧
      ∀ c, desk.setDeviceMode args c = desk.experiment mode tidOverride c ∧
        ∃ frames, (desk.setDeviceMode args c).2.world.delivered = c.world.delivered ++ frames ∧
          ∀ d ∈ frames, d.buf.report.get 1 = tidOverride.getD keyboard.transactionId) ∧
    ∀ mode tidOverride, Documented args mode tidOverride → Accepted args mode tidOverride := by
  refine ⟨fun mode tidOverride => arguments_eq_ok, desk.setDeviceMode_refused, ?_, fun mode tidOverride => Documented.accepted⟩
  intro mode tidOverride accepted
  constructor
  · cases accepted.overridden with
    | table absent => exact ⟨fun _ => absent, fun _ => rfl⟩
    | given split first value =>
      simp only [reduceCtorEq, false_iff, not_not]
      rw [split]
      exact List.mem_append_right _ (List.mem_cons_self ..)
  · intro c
    rw [desk.setDeviceMode_accepted accepted]
    obtain ⟨frames, _, delivered, _, each, _⟩ := desk.experiment_frames mode tidOverride c
    refine ⟨rfl, frames, delivered, fun d member => ?_⟩
    rw [(each d member).1, report_hidrawBuf, RazerReport.toBytes_withTransactionId]
    exact Vector.getElem_set_self ..

/-- An id attached with `=` is not looked for, and the run goes on under the id of the table. -/
theorem attached_id_is_ignored :
    (∀ desk : Desk, desk.setDeviceMode ["driver", CONFIRMATION, "--transaction-id=FF"] = desk.experiment .driver none) ∧
    ¬∃ mode tidOverride, Documented ["driver", CONFIRMATION, "--transaction-id=FF"] mode tidOverride := by
  constructor
  · intro desk
    exact desk.setDeviceMode_accepted ⟨rfl, by simp, .table (by decide)⟩
  · rintro ⟨mode, tidOverride, documented⟩
    generalize same : ["driver", CONFIRMATION, "--transaction-id=FF"] = args at documented
    cases documented with
    | plain _ | confirmedFirst _ | confirmedLast _ => simp at same

/-- The value that is taken is the one that is printed and the one that is sent:
a keyboard that is found has its one wire line, one that is opened gets its frames. -/
theorem transactionId_exact (args : List String) (c : Console) :
    (∀ raw id, transactionId raw = .ok id ↔ IsHexByte raw id) ∧
    (∀ before raw after, args = before ++ TRANSACTION_ID :: raw :: after → TRANSACTION_ID ∉ before →
      (¬∃ id, IsHexByte raw id) → ∃ e, desk.setDeviceMode args c = (.error e, c)) ∧
    ∀ mode id, Accepted args mode (some id) →
      ∃ frames lines, (desk.setDeviceMode args c).2.world.delivered = c.world.delivered ++ frames ∧
        (desk.setDeviceMode args c).2.printed = c.printed ++ lines ∧
        (∀ d ∈ frames, d.buf.get 0 = 0 ∧ d.buf.report.get 1 = id ∧ wireLine d.buf.report ∈ lines ∧
          ∀ line ∈ lines, IsWireLine line → line = wireLine d.buf.report) ∧
        ∀ node w, findDevice desk.kernel.sysfs RAZER_VID 0x028D keyboard.reportIndex c.world = (.ok node, w) →
          wireLines lines = [wireLine ((Cmd.setDeviceMode mode).withTransactionId id).toBytes] ∧
            ∀ dev w', desk.kernel.openExpecting keyboard node.path RAZER_VID 0x028D w = (.ok dev, w') → frames ≠ [] := by
  refine ⟨fun raw id => transactionId_eq_ok, ?_, ?_⟩
  · intro before raw after split first bad
    have refused : ¬∃ mode tidOverride, Accepted args mode tidOverride := by
      rintro ⟨mode, tidOverride, accepted⟩
      have read := tidOverride_eq_ok.mpr accepted.overridden
      rw [split, tidOverride_present first] at read
      simp only [List.head?_cons] at read
      cases value : transactionId raw with
      | error e =>
        rw [value] at read
        cases read
      | ok id => exact bad ⟨id, transactionId_eq_ok.mp value⟩
    obtain ⟨e, unchanged⟩ := desk.setDeviceMode_refused refused
    exact ⟨e, unchanged c⟩
  · intro mode id accepted
    rw [desk.setDeviceMode_accepted accepted]
    obtain ⟨frames, lines, delivered, printed, each, found⟩ := desk.experiment_frames mode (some id) c
    refine ⟨frames, lines, delivered, printed, fun d member => ?_, found⟩
    obtain ⟨buf, one⟩ := each d member
    have among {line : String} : line ∈ lines ∧ IsWireLine line ↔ line = wireLine d.buf.report := by
      rw [← mem_wireLines, one, List.mem_singleton]
    refine ⟨?_, ?_, (among.mpr rfl).1, fun line member wire => among.mp ⟨member, wire⟩⟩
    · rw [buf]
      exact hidrawBuf_zero _
    · rw [buf, report_hidrawBuf, RazerReport.toBytes_withTransactionId]
      exact Vector.getElem_set_self ..

/-- Some line begins like this. -/
def Says (front : String) (lines : List String) : Prop :=
  ∃ line ∈ lines, front.toList <+: line.toList

def RESET : String := "  *** USB DISCONNECT after "

def NO_RESET : String := "  disconnects after:  "

theorem says_append {front : String} {first second : List String} :
    Says front (first ++ second) ↔ Says front first ∨ Says front second := by
  simp only [Says, List.mem_append, or_and_right, exists_or]

/-- Only the verdict speaks of resets. -/
theorem not_says_before {node : HidrawNode} {mode : DeviceMode} {tidOverride : Option UInt8} {before : Option Nat}
    {trial : Trial} {elapsed : Duration} {front : String} (long : 16 ≤ front.toList.length)
    (other : lead front ≠ lead WIRE) (new : lead front ∉ LEADS) :
    ¬Says front (header keyboard node mode tidOverride ++ baseline before ++ trialLines trial elapsed) := by
  rintro ⟨line, member, starts⟩
  have same := lead_of_starts starts long
  rcases lead_before member with rfl | known
  · exact other (same.symm.trans (lead_append (by decide)))
  · exact new (same ▸ known)

theorem lead_of_says {front : String} {verdict : Verdict} (long : 16 ≤ front.toList.length)
    (said : Says front (watching :: verdictLines verdict)) : lead front ∈ verdictLeads verdict := by
  obtain ⟨line, member, starts⟩ := said
  rw [← lead_of_starts starts long]
  exact lead_verdict member

theorem says_reset (verdict : Verdict) :
    Says RESET (watching :: verdictLines verdict) ↔ ∃ i b a, verdict = .disconnect i b a := by
  constructor
  · intro said
    have known := lead_of_says (by decide) said
    cases verdict with
    | disconnect i b a => exact ⟨i, b, a, rfl⟩
    | clean b a =>
      simp only [verdictLeads] at known
      exact absurd known (by decide)
    | silent => exact absurd known (by decide)
  · rintro ⟨i, b, a, rfl⟩
    refine ⟨_, List.mem_cons_of_mem _ (List.mem_cons_self ..), ?_⟩
    simp only [RESET, String.append_assoc, String.toList_append]
    exact List.prefix_append ..

theorem says_no_reset (verdict : Verdict) :
    Says NO_RESET (watching :: verdictLines verdict) ↔ ∃ b a, verdict = .clean b a := by
  constructor
  · intro said
    have known := lead_of_says (by decide) said
    cases verdict with
    | disconnect i b a =>
      simp only [verdictLeads] at known
      exact absurd known (by decide)
    | clean b a => exact ⟨b, a, rfl⟩
    | silent => exact absurd known (by decide)
  · rintro ⟨b, a, rfl⟩
    refine ⟨_, List.mem_cons_of_mem _ (List.mem_cons_self ..), ?_⟩
    simp only [NO_RESET, String.append_assoc, String.toList_append]
    exact List.prefix_append ..

/-- A run that gets as far as the watch prints what the watch makes of the readings. -/
theorem watched {args : List String} {c c' : Console} {verdict : Verdict}
    (ran : desk.setDeviceMode args c = (.ok verdict, c')) :
    ∃ lines, c'.printed = c.printed ++ lines ∧
      (Says RESET lines ↔ ∃ i b a, verdict = .disconnect i b a) ∧ (Says NO_RESET lines ↔ ∃ b a, verdict = .clean b a) ∧
      Judged (desk.reading c.readings) (fun i => desk.reading (c.readings + i)) verdict := by
  by_cases accepted : ∃ mode tidOverride, Accepted args mode tidOverride
  · obtain ⟨mode, tidOverride, accepted⟩ := accepted
    have steps : desk.Ran mode tidOverride c (.ok verdict) c' := by
      have taken : desk.Ran mode tidOverride c _ _ := experiment_ran mode tidOverride c
      rw [← desk.setDeviceMode_accepted accepted, ran] at taken
      exact taken
    cases steps with
    | tried finds opens tries printed judged =>
      refine ⟨_, printed, ?_, ?_, judged⟩
      · rw [says_append, says_reset, or_iff_right (not_says_before (by decide) (by decide) (by decide))]
      · rw [says_append, says_no_reset, or_iff_right (not_says_before (by decide) (by decide) (by decide))]
  · obtain ⟨e, refused⟩ := desk.setDeviceMode_refused accepted
    rw [refused c] at ran
    cases ran

/-- A reset is reported just when some reading exceeds the baseline, the last
one included, and its absence only when there is a baseline that none exceeds. -/
structure Honest (before : Option Nat) (after : Nat → Option Nat) (lines : List String) : Prop where
  reset : Says RESET lines ↔ ∃ i, 1 ≤ i ∧ i ≤ WATCH_SECONDS + 1 ∧ Exceeds before (after i)
  clean : Says NO_RESET lines →
    (∃ b, before = some b) ∧ ∀ i, 1 ≤ i → i ≤ WATCH_SECONDS + 1 → ¬Exceeds before (after i)

/-- The output is honest unless the count goes up between the last second of
the watch and the reading at its end. -/
theorem watch_honest_iff {args : List String} {c c' : Console} {verdict : Verdict}
    (ran : desk.setDeviceMode args c = (.ok verdict, c')) :
    ∃ lines, c'.printed = c.printed ++ lines ∧
      (Honest (desk.reading c.readings) (fun i => desk.reading (c.readings + i)) lines ↔
        ¬((∀ i, 1 ≤ i → i ≤ WATCH_SECONDS → ¬Exceeds (desk.reading c.readings) (desk.reading (c.readings + i))) ∧
          Exceeds (desk.reading c.readings) (desk.reading (c.readings + (WATCH_SECONDS + 1))))) := by
  obtain ⟨lines, printed, reset, clean, judged⟩ := desk.watched ran
  refine ⟨lines, printed, ?_⟩
  generalize desk.reading c.readings = before at judged ⊢
  have split (i : Nat) (last : i ≤ WATCH_SECONDS + 1) : i ≤ WATCH_SECONDS ∨ i = WATCH_SECONDS + 1 := by omega
  constructor
  · rintro honest ⟨quiet, late⟩
    obtain ⟨i, b, a, rfl⟩ := reset.mp (honest.reset.mpr ⟨_, Nat.le_add_left 1 _, le_rfl, late⟩)
    cases judged with
    | disconnect first last there taken more => exact quiet i first last ⟨b, a, there, taken, more⟩
  · intro seen
    cases judged with
    | @disconnect i b a first last there taken more =>
      refine ⟨?_, fun none => ?_⟩
      · rw [reset]
        exact ⟨fun _ => ⟨i, first, Nat.le_succ_of_le last, b, a, there, taken, more⟩, fun _ => ⟨i, b, a, rfl⟩⟩
      · obtain ⟨_, _, same⟩ := clean.mp none
        cases same
    | @clean b a quiet there taken =>
      have none (i : Nat) (first : 1 ≤ i) (last : i ≤ WATCH_SECONDS + 1) : ¬Exceeds before (desk.reading (c.readings + i)) := by
        rcases split i last with inside | rfl
        · exact quiet i first inside
        · exact fun late => seen ⟨quiet, late⟩
      refine ⟨?_, fun _ => ⟨⟨b, there⟩, none⟩⟩
      rw [reset]
      constructor
      · rintro ⟨_, _, _, same⟩
        cases same
      · rintro ⟨i, first, last, more⟩
        exact absurd more (none i first last)
    | silent quiet missing =>
      refine ⟨?_, fun none => ?_⟩
      · rw [reset]
        constructor
        · rintro ⟨_, _, _, same⟩
          cases same
        · rintro ⟨i, first, last, more⟩
          rcases split i last with inside | rfl
          · exact absurd more (quiet i first inside)
          · exact absurd ⟨quiet, more⟩ seen
      · obtain ⟨_, _, same⟩ := clean.mp none
        cases same

/-- One keyboard, whose log grows by a reset behind the `n`-th reading. -/
def resetting (n : Nat) : Desk where
  kernel := .ofBus steadyBus
  journalctl i _ := some (if i < n then "" else "usb 1-2: USB disconnect, device number 5")
  elapsed := ⟨1000000⟩

/-- A reset in the fourth second. -/
theorem watch_honest_iff_in_time : Honest (some 0) (resetting 4).reading
    ((resetting 4).setDeviceMode ["driver", CONFIRMATION] {}).2.printed := by
  have verdict : ((resetting 4).setDeviceMode ["driver", CONFIRMATION] {}).1 = .ok (.disconnect 4 0 1) := by decide +kernel
  have before : (resetting 4).reading 0 = some 0 := by decide +kernel
  have fourth : (resetting 4).reading 4 = some 1 := by decide +kernel
  obtain ⟨lines, printed, honest⟩ := watch_honest_iff (resetting 4) (Prog.run_of_fst verdict)
  rw [printed]
  simp only [Nat.zero_add, before] at honest
  exact honest.mpr fun missed => missed.1 4 (by decide) (by decide) ⟨0, 1, rfl, fourth, by decide⟩

/-- A reset between the ninetieth second and the final reading is printed as none at all. -/
theorem late_reset_is_reported_clean :
    ((resetting 91).setDeviceMode ["driver", CONFIRMATION] {}).1 = .ok (.clean 0 1) ∧
    ¬Honest (some 0) (resetting 91).reading ((resetting 91).setDeviceMode ["driver", CONFIRMATION] {}).2.printed := by
  have verdict : ((resetting 91).setDeviceMode ["driver", CONFIRMATION] {}).1 = .ok (.clean 0 1) := by decide +kernel
  have last : (resetting 91).reading 91 = some 1 := by decide +kernel
  refine ⟨verdict, fun honest => ?_⟩
  obtain ⟨lines, printed, reset, _⟩ := watched (resetting 91) (Prog.run_of_fst verdict)
  rw [printed] at honest
  obtain ⟨_, _, _, same⟩ := reset.mp (honest.reset.mpr ⟨91, by decide, by decide, 0, 1, rfl, last, by decide⟩)
  cases same

end Desk

end OpenRazer
