import OpenRazer.Errors
import OpenRazer.Devices
import OpenRazer.Library.Binary64
import OpenRazer.Library.Escape

namespace OpenRazer

/-- One device's identity, used as label values. -/
structure DeviceLabels where
  device : String
  pid : String
deriving DecidableEq

/-- `str::replace` of one character. -/
def replace (old : Char) (new text : String) : String :=
  String.ofList (text.toList.flatMap fun c => if c = old then new.toList else [c])

/-- Escape a label value: one replacement after another, over the whole string each time. -/
def escape (s : String) : String :=
  replace '\r' "\\r" (replace '\n' "\\n" (replace '\x22' "\\\x22" (replace '\\' "\\\\" s)))

namespace DeviceLabels

/-- The derived order: by name, then by product id. -/
instance : Ord DeviceLabels where
  compare := compareLex (compareOn device) (compareOn pid)

instance : Std.TransOrd DeviceLabels :=
  inferInstanceAs (Std.TransCmp (compareLex (compareOn device) (compareOn pid)))

instance : Std.LawfulEqOrd DeviceLabels where
  eq_of_compare {a b} same := by
    obtain ⟨first, second⟩ := compareLex_eq_eq.mp same
    obtain ⟨_, _⟩ := a
    rw [DeviceLabels.mk.injEq]
    exact ⟨Std.LawfulEqOrd.eq_of_compare first, Std.LawfulEqOrd.eq_of_compare second⟩

def render (l : DeviceLabels) : String :=
  "device=\x22" ++ escape l.device ++ "\x22,pid=\x22" ++ escape l.pid ++ "\x22"

end DeviceLabels

/-- The key of a counter: the device, and the command or the reason. -/
abbrev SeriesKey := DeviceLabels × String

instance : Ord SeriesKey := lexOrd

instance : Std.TransOrd SeriesKey :=
  inferInstanceAs (Std.TransCmp (compareLex (compareOn Prod.fst) (compareOn Prod.snd)))

instance : Std.LawfulEqOrd SeriesKey where
  eq_of_compare {a b} same := by
    obtain ⟨first, second⟩ := compareLex_eq_eq.mp same
    exact Prod.ext (Std.LawfulEqOrd.eq_of_compare first) (Std.LawfulEqOrd.eq_of_compare second)

/-- A bucket bound and how it is displayed. -/
structure Bound where
  shown : String
  value : Binary64

def LATENCY_BUCKETS : List Bound := [
  ⟨"0.0005", .round (5 / 10000)⟩, ⟨"0.001", .round (1 / 1000)⟩, ⟨"0.002", .round (2 / 1000)⟩,
  ⟨"0.005", .round (5 / 1000)⟩, ⟨"0.01", .round (1 / 100)⟩, ⟨"0.025", .round (25 / 1000)⟩,
  ⟨"0.05", .round (5 / 100)⟩, ⟨"0.1", .round (1 / 10)⟩, ⟨"0.25", .round (25 / 100)⟩,
  ⟨"0.5", .round (5 / 10)⟩, ⟨"1", .round 1⟩]

structure Histogram where
  counts : List UInt64
  sum : Binary64
  total : UInt64
deriving DecidableEq

namespace Histogram

protected def new : Histogram where
  counts := List.replicate LATENCY_BUCKETS.length 0
  sum := 0
  total := 0

/-- The loop of `observe`; without a slot for a bound it panics. -/
def count (v : Binary64) : List Bound → Nat → List UInt64 → Option (List UInt64)
  | [], _, counts => some counts
  | b :: bounds, i, counts =>
    if v ≤ b.value then do
      let n ← counts[i]?
      count v bounds (i + 1) (counts.set i (n + 1))
    else count v bounds (i + 1) counts

def observe (h : Histogram) (v : Binary64) : Option Histogram := do
  let counts ← count v LATENCY_BUCKETS 0 h.counts
  return { counts := counts, sum := .add h.sum v, total := h.total + 1 }

end Histogram

/-- Everything razerd knows about one device. -/
structure DeviceState where
  present : Bool := false
  usbDevnum : Option UInt64 := none
  kernelDriver : Option String := none
  firmware : Option String := none
  serial : Option String := none
  deviceMode : Option UInt8 := none
  pollRateHz : Option UInt32 := none
  brightness : Option UInt8 := none
  transactionId : Option UInt8 := none
deriving DecidableEq

structure Inner where
  devices : Std.ExtTreeMap DeviceLabels DeviceState := ∅
  transactions : Std.ExtTreeMap SeriesKey UInt64 := ∅
  attempts : Std.ExtTreeMap SeriesKey UInt64 := ∅
  errors : Std.ExtTreeMap SeriesKey UInt64 := ∅
  latency : Std.ExtTreeMap SeriesKey Histogram := ∅
  pollFailures : UInt64 := 0
  lastPollDuration : Binary64 := 0
  polls : UInt64 := 0

/-- The registry. Its lock is poisoned only by a panic, which is `none` here. -/
structure Metrics where
  inner : Inner
  exposeSerial : Bool

namespace Metrics

protected def new (exposeSerial : Bool) : Metrics where
  inner := {}
  exposeSerial := exposeSerial

/-- `*entry(key).or_default() += n`. -/
def bump (m : Std.ExtTreeMap SeriesKey UInt64) (key : SeriesKey) (n : UInt64) : Std.ExtTreeMap SeriesKey UInt64 :=
  m.alter key fun old => some (old.getD 0 + n)

/-- Record a completed transaction. -/
def recordTransaction (m : Metrics) (labels : DeviceLabels) (command : String) (attempts : UInt32) (duration : Duration)
    (error : Option String) : Option Metrics := do
  let g := m.inner
  let key := (labels, command)
  let histogram ← (g.latency[key]?.getD .new).observe (.ofNanos duration.nanos)
  let errors := match error with
    | some reason => bump g.errors (labels, reason) 1
    | none => g.errors
  return { m with inner := { g with
    transactions := bump g.transactions key 1
    attempts := bump g.attempts key attempts.toUInt64
    latency := g.latency.insert key histogram
    errors := errors } }

/-- Replace a device's cached state after a poll. -/
def setDeviceState (m : Metrics) (labels : DeviceLabels) (state : DeviceState) : Metrics :=
  { m with inner := { m.inner with devices := m.inner.devices.insert labels state } }

def recordPoll (m : Metrics) (duration : Duration) (failed : Bool) : Metrics :=
  { m with inner := { m.inner with
    polls := m.inner.polls + 1
    lastPollDuration := .ofNanos duration.nanos
    pollFailures := if failed then m.inner.pollFailures + 1 else m.inner.pollFailures } }

/-- `env!("CARGO_PKG_VERSION")`. -/
def VERSION : String := "0.1.0"

/-- The two comment lines of a metric, then its samples. -/
def family (name help type : String) (samples : List String) : List String :=
  ["# HELP " ++ name ++ " " ++ help, "# TYPE " ++ name ++ " " ++ type] ++ samples

/-- A sample for each device whose state has the value. -/
def gauges (name : String) (value : DeviceState → Option String) (g : Inner) : List String :=
  g.devices.toList.filterMap fun (l, s) => (value s).map fun v => name ++ "\x7b" ++ l.render ++ "\x7d " ++ v

/-- A sample for each entry of a counter. -/
def counters (name label : String) (m : Std.ExtTreeMap SeriesKey UInt64) : List String :=
  m.toList.map fun ((l, what), v) =>
    name ++ "\x7b" ++ l.render ++ "," ++ label ++ "=\x22" ++ escape what ++ "\x22\x7d " ++ Nat.repr v.toNat

def deviceInfo (exposeSerial : Bool) (g : Inner) : List String :=
  g.devices.toList.map fun (l, s) =>
    let firmware := match s.firmware with
      | some f => ",firmware=\x22" ++ escape f ++ "\x22"
      | none => ""
    let transactionId := match s.transactionId with
      | some t => ",transaction_id=\x220x" ++ hexUpper 2 t.toNat ++ "\x22"
      | none => ""
    let serial := match exposeSerial, s.serial with
      | true, some sn => ",serial=\x22" ++ escape sn ++ "\x22"
      | _, _ => ""
    "razer_device_info\x7b" ++ l.render ++ (firmware ++ transactionId ++ serial) ++ "\x7d 1"

def kernelDriver (g : Inner) : List String :=
  g.devices.toList.filterMap fun (l, s) =>
    s.kernelDriver.map fun d => "razer_device_kernel_driver\x7b" ++ l.render ++ ",driver=\x22" ++ escape d ++ "\x22\x7d 1"

/-- The samples of one histogram; a bound without a slot is a panic. -/
def histogram (l : DeviceLabels) (cmd : String) (h : Histogram) : Option (List String) := do
  let base := l.render ++ ",command=\x22" ++ escape cmd ++ "\x22"
  let buckets ← LATENCY_BUCKETS.zipIdx.mapM fun (b, i) => do
    let n ← h.counts[i]?
    return "razer_transaction_duration_seconds_bucket\x7b" ++ base ++ ",le=\x22" ++ b.shown ++ "\x22\x7d " ++ Nat.repr n.toNat
  return buckets ++ [
    "razer_transaction_duration_seconds_bucket\x7b" ++ base ++ ",le=\x22+Inf\x22\x7d " ++ Nat.repr h.total.toNat,
    "razer_transaction_duration_seconds_sum\x7b" ++ base ++ "\x7d " ++ Binary64.fixed 6 h.sum,
    "razer_transaction_duration_seconds_count\x7b" ++ base ++ "\x7d " ++ Nat.repr h.total.toNat]

/-- The lines of the exposition format, `elapsed` after the registry was made. -/
def lines (m : Metrics) (elapsed : Duration) : Option (List String) := do
  let g := m.inner
  let latency ← g.latency.toList.mapM fun ((l, cmd), h) => histogram l cmd h
  return (
    family "razer_build_info" "Build information." "gauge" ["razer_build_info\x7bversion=\x22" ++ escape VERSION ++ "\x22\x7d 1"] ++
    family "razer_uptime_seconds" "Seconds since razerd started." "gauge"
      ["razer_uptime_seconds " ++ Binary64.fixed 3 (.ofNanos elapsed.nanos)] ++
    -- device identity and health
    family "razer_device_info" "Device identity. Serial is only present when --expose-serial is set." "gauge"
      (deviceInfo m.exposeSerial g) ++
    family "razer_device_present" "1 if the device is currently enumerated." "gauge"
      (gauges "razer_device_present" (fun s => some (Nat.repr s.present.toNat)) g) ++
    family "razer_device_usb_devnum"
      "USB device number. Increments on every re-enumeration, so changes() over a window counts USB disconnects." "gauge"
      (gauges "razer_device_usb_devnum" (fun s => s.usbDevnum.map fun n => Nat.repr n.toNat) g) ++
    family "razer_device_kernel_driver" "Which in-kernel HID driver owns the interfaces." "gauge" (kernelDriver g) ++
    family "razer_device_mode"
      "Operating mode: 0 normal, 3 driver. Driver mode is the state in which the upstream razerkbd transaction-id defect resets this hardware."
      "gauge" (gauges "razer_device_mode" (fun s => s.deviceMode.map fun m => Nat.repr m.toNat) g) ++
    family "razer_device_poll_rate_hz" "Polling rate in hertz." "gauge"
      (gauges "razer_device_poll_rate_hz" (fun s => s.pollRateHz.map fun p => Nat.repr p.toNat) g) ++
    family "razer_device_brightness_ratio" "Backlight brightness, 0-1." "gauge"
      (gauges "razer_device_brightness_ratio"
        (fun s => s.brightness.map fun b => Binary64.fixed 4 (.div (.ofNat b.toNat) 255)) g) ++
    -- golden signals
    family "razer_transactions_total" "TRAFFIC: completed HID transactions." "counter"
      (counters "razer_transactions_total" "command" g.transactions) ++
    family "razer_transaction_attempts_total"
      "SATURATION: attempts consumed, including retries. attempts/transactions > 1 means the device is rejecting well-formed reports."
      "counter" (counters "razer_transaction_attempts_total" "command" g.attempts) ++
    family "razer_transaction_errors_total" "ERRORS: failed transactions by reason." "counter"
      (counters "razer_transaction_errors_total" "reason" g.errors) ++
    family "razer_transaction_duration_seconds" "LATENCY: HID feature-report round trip." "histogram" latency.flatten ++
    -- exporter self-observability
    family "razer_polls_total" "Device poll cycles run." "counter" ["razer_polls_total " ++ Nat.repr g.polls.toNat] ++
    family "razer_poll_failures_total" "Poll cycles that failed for at least one device." "counter"
      ["razer_poll_failures_total " ++ Nat.repr g.pollFailures.toNat] ++
    family "razer_poll_duration_seconds" "Duration of the most recent poll cycle." "gauge"
      ["razer_poll_duration_seconds " ++ Binary64.fixed 6 g.lastPollDuration])

/-- `writeln!` of each line. -/
def render (m : Metrics) (elapsed : Duration) : Option String := do
  let lines ← m.lines elapsed
  return String.join (lines.map (· ++ "\n"))

end Metrics

/-- A call on the registry. -/
inductive Call
  | recordTransaction (labels : DeviceLabels) (command : String) (attempts : UInt32) (duration : Duration)
      (error : Option String)
  | setDeviceState (labels : DeviceLabels) (state : DeviceState)
  | recordPoll (duration : Duration) (failed : Bool)
deriving DecidableEq

namespace Metrics

def apply (m : Metrics) : Call → Option Metrics
  | .recordTransaction labels command attempts duration error => m.recordTransaction labels command attempts duration error
  | .setDeviceState labels state => some (m.setDeviceState labels state)
  | .recordPoll duration failed => some (m.recordPoll duration failed)

/-- The registry after a history of calls. -/
def after (exposeSerial : Bool) (calls : List Call) : Option Metrics :=
  calls.foldlM apply (.new exposeSerial)

end Metrics

end OpenRazer
