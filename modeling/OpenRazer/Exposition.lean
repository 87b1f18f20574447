import OpenRazer.Library.Collections
import OpenRazer.Sample

namespace OpenRazer

/-- The labels that every sample of a device begins with. -/
def DeviceLabels.pairs (l : DeviceLabels) : List (String × String) :=
  [("device", l.device), ("pid", l.pid)]

/-- The metrics with a sample for each device that has a value. -/
inductive DeviceFamily
  | info | present | usbDevnum | kernelDriver | mode | pollRate | brightness
deriving DecidableEq

namespace DeviceFamily

def all : List DeviceFamily :=
  [.info, .present, .usbDevnum, .kernelDriver, .mode, .pollRate, .brightness]

def name : DeviceFamily → String
  | .info => "razer_device_info"
  | .present => "razer_device_present"
  | .usbDevnum => "razer_device_usb_devnum"
  | .kernelDriver => "razer_device_kernel_driver"
  | .mode => "razer_device_mode"
  | .pollRate => "razer_device_poll_rate_hz"
  | .brightness => "razer_device_brightness_ratio"

/-- What a device's state says under a metric: further labels, and a number. -/
def read (exposeSerial : Bool) (s : DeviceState) : DeviceFamily → Option (List (String × String) × String)
  | .info =>
    let firmware := s.firmware.toList.map fun f => ("firmware", f)
    let transactionId := s.transactionId.toList.map fun t => ("transaction_id", "0x" ++ hexUpper 2 t.toNat)
    let serial := if exposeSerial then s.serial.toList.map fun sn => ("serial", sn) else []
    some (firmware ++ transactionId ++ serial, "1")
  | .present => some ([], Nat.repr s.present.toNat)
  | .usbDevnum => s.usbDevnum.map fun n => ([], Nat.repr n.toNat)
  | .kernelDriver => s.kernelDriver.map fun d => ([("driver", d)], "1")
  | .mode => s.deviceMode.map fun m => ([], Nat.repr m.toNat)
  | .pollRate => s.pollRateHz.map fun p => ([], Nat.repr p.toNat)
  | .brightness => s.brightness.map fun b => ([], Binary64.fixed 4 (.div (.ofNat b.toNat) 255))

def sample (exposeSerial : Bool) (family : DeviceFamily) (l : DeviceLabels) (s : DeviceState) : Option Sample :=
  (family.read exposeSerial s).map fun said => ⟨family.name, l.pairs ++ said.1, said.2⟩

end DeviceFamily

/-- The metrics with a sample for each entry of a counter. -/
inductive CounterFamily
  | transactions | attempts | errors
deriving DecidableEq

namespace CounterFamily

def all : List CounterFamily :=
  [.transactions, .attempts, .errors]

def name : CounterFamily → String
  | .transactions => "razer_transactions_total"
  | .attempts => "razer_transaction_attempts_total"
  | .errors => "razer_transaction_errors_total"

def label : CounterFamily → String
  | .transactions | .attempts => "command"
  | .errors => "reason"

def entries (g : Inner) : CounterFamily → Std.ExtTreeMap SeriesKey UInt64
  | .transactions => g.transactions
  | .attempts => g.attempts
  | .errors => g.errors

def sample (family : CounterFamily) (key : SeriesKey) (n : UInt64) : Sample :=
  ⟨family.name, key.1.pairs ++ [(family.label, key.2)], Nat.repr n.toNat⟩

end CounterFamily

/-- The samples of a latency entry. -/
inductive Row
  | bucket (i : Fin LATENCY_BUCKETS.length) | inf | sum | count
deriving DecidableEq

namespace Row

def all : List Row :=
  (List.finRange LATENCY_BUCKETS.length).map .bucket ++ [.inf, .sum, .count]

def name : Row → String
  | .bucket _ | .inf => "razer_transaction_duration_seconds_bucket"
  | .sum => "razer_transaction_duration_seconds_sum"
  | .count => "razer_transaction_duration_seconds_count"

def le : Row → List (String × String)
  | .bucket i => [("le", LATENCY_BUCKETS[i].shown)]
  | .inf => [("le", "+Inf")]
  | .sum | .count => []

def read (h : Histogram) : Row → Option String
  | .bucket i => h.counts[i]?.map fun n => Nat.repr n.toNat
  | .inf => some (Nat.repr h.total.toNat)
  | .sum => some (Binary64.fixed 6 h.sum)
  | .count => some (Nat.repr h.total.toNat)

def sample (key : SeriesKey) (h : Histogram) (row : Row) : Option Sample :=
  (row.read h).map fun value => ⟨row.name, key.1.pairs ++ ("command", key.2) :: row.le, value⟩

end Row

/-- A metric and an entry of the registry. -/
inductive Series
  | device (family : DeviceFamily) (labels : DeviceLabels)
  | counter (family : CounterFamily) (key : SeriesKey)
  | latency (key : SeriesKey) (row : Row)
deriving DecidableEq

/-- The sample of a series, where the registry has the entry and the entry a value. -/
def Series.sample (m : Metrics) : Series → Option Sample
  | .device family l => m.inner.devices[l]?.bind (family.sample m.exposeSerial l)
  | .counter family key => (family.entries m.inner)[key]?.map (family.sample key)
  | .latency key row => m.inner.latency[key]?.bind (row.sample key)

namespace Metrics

/-- The samples before those of the devices. -/
def opening (elapsed : Duration) : List Sample := [
  ⟨"razer_build_info", [("version", VERSION)], "1"⟩,
  ⟨"razer_uptime_seconds", [], Binary64.fixed 3 (.ofNanos elapsed.nanos)⟩]

/-- The samples behind those of the latencies. -/
def closing (g : Inner) : List Sample := [
  ⟨"razer_polls_total", [], Nat.repr g.polls.toNat⟩,
  ⟨"razer_poll_failures_total", [], Nat.repr g.pollFailures.toNat⟩,
  ⟨"razer_poll_duration_seconds", [], Binary64.fixed 6 g.lastPollDuration⟩]

/-- Every metric with every entry of its map. -/
def candidates (g : Inner) : List Series :=
  (DeviceFamily.all.flatMap fun family => g.devices.keys.map (.device family)) ++
  (CounterFamily.all.flatMap fun family => (family.entries g).keys.map (.counter family)) ++
  g.latency.keys.flatMap fun key => Row.all.map (.latency key)

/-- The series of a registry, in the order of its text. -/
def series (m : Metrics) : List Series :=
  (candidates m.inner).filter fun s => (s.sample m).isSome

/-- Its samples, fixed ones included. -/
def samples (m : Metrics) (elapsed : Duration) : List Sample :=
  opening elapsed ++ m.series.filterMap (Series.sample m) ++ closing m.inner

end Metrics

/-- What the comment lines of a metric say. -/
structure Heading where
  name : String
  help : String
  type : String

namespace Heading

def lines (h : Heading) : List String :=
  Metrics.family h.name h.help h.type []

/-- The kernel compares characters, where it would decode a string byte by byte. -/
theorem lines_one_line {h : Heading} {name help type : List Char} (spellName : h.name = String.ofList name)
    (spellHelp : h.help = String.ofList help) (spellType : h.type = String.ofList type)
    (plain : '\n' ∉ name ++ help ++ type) : ∀ line ∈ h.lines, '\n' ∉ line.toList := by
  simp only [List.mem_append, not_or] at plain
  obtain ⟨⟨name, help⟩, type⟩ := plain
  simp [lines, Metrics.family, spellName, spellHelp, spellType, name, help, type]

end Heading

/-- A line of the exposition format. -/
inductive Line
  | comment (text : String)
  | sample (sample : Sample)

namespace Line

def text : Line → String
  | .comment text => text
  | .sample s => s.text

def comment? : Line → Option String
  | .comment text => some text
  | .sample _ => none

def sample? : Line → Option Sample
  | .comment _ => none
  | .sample s => some s

end Line

/-- Every latency entry has a slot for every bound. -/
def Slots (g : Inner) : Prop :=
  ∀ (key : SeriesKey) (h : Histogram), g.latency[key]? = some h → h.counts.length = LATENCY_BUCKETS.length

namespace Sample

theorem text_pairs (name : String) (l : DeviceLabels) (extra : List (String × String)) (value : String) :
    text ⟨name, l.pairs ++ extra, value⟩ = name ++ "\x7b" ++ l.render ++ more extra ++ "\x7d " ++ value := by
  simp [← String.toList_inj, text, braces, more, pair, DeviceLabels.pairs, DeviceLabels.render]

@[simp] theorem more_nil : more [] = "" := by
  rw [more, List.map_nil, String.join_nil]

@[simp] theorem more_cons (label : String × String) (rest : List (String × String)) :
    more (label :: rest) = "," ++ pair label ++ more rest := by
  rw [more, List.map_cons, String.join_cons, ← more]

@[simp] theorem more_append (first second : List (String × String)) : more (first ++ second) = more first ++ more second := by
  rw [more, List.map_append, String.join_append, ← more, ← more]

end Sample

namespace Metrics

variable (m : Metrics)

theorem series_samples : m.series.filterMap (Series.sample m) = (candidates m.inner).filterMap (Series.sample m) := by
  rw [series, List.filterMap_filter]
  refine List.filterMap_congr fun s _ => ?_
  cases found : s.sample m <;> rfl

/-- The samples of a device family. -/
def deviceSamples (family : DeviceFamily) : List Sample :=
  m.inner.devices.toList.filterMap fun entry => family.sample m.exposeSerial entry.1 entry.2

theorem device_samples (family : DeviceFamily) :
    (m.inner.devices.keys.map (Series.device family)).filterMap (Series.sample m) = m.deviceSamples family := by
  rw [List.filterMap_map]
  refine Collections.filterMap_keys m.inner.devices fun l s stored => ?_
  rw [Function.comp_apply, Series.sample, stored, Option.bind_some]

theorem gauges_eq (family : DeviceFamily) {value : DeviceState → Option String}
    (reads : ∀ s, family.read m.exposeSerial s = (value s).map fun v => ([], v)) :
    gauges family.name value m.inner = (m.deviceSamples family).map Sample.text := by
  rw [gauges, deviceSamples, List.map_filterMap]
  refine List.filterMap_congr fun entry _ => ?_
  obtain ⟨l, s⟩ := entry
  rw [DeviceFamily.sample, reads, Option.map_map, Option.map_map]
  refine congrArg (Option.map · (value s)) (funext fun v => ?_)
  rw [Function.comp_apply, Function.comp_apply, Sample.text_pairs, Sample.more_nil, String.append_empty]

theorem kernelDriver_eq : kernelDriver m.inner = (m.deviceSamples .kernelDriver).map Sample.text := by
  rw [kernelDriver, deviceSamples, List.map_filterMap]
  refine List.filterMap_congr fun entry _ => ?_
  obtain ⟨l, s⟩ := entry
  rw [DeviceFamily.sample, DeviceFamily.read, Option.map_map, Option.map_map]
  refine congrArg (Option.map · s.kernelDriver) (funext fun d => ?_)
  simp [← String.toList_inj, Sample.text_pairs, Sample.pair, DeviceFamily.name]

theorem deviceInfo_eq : deviceInfo m.exposeSerial m.inner = (m.deviceSamples .info).map Sample.text := by
  rw [deviceInfo, deviceSamples, List.map_filterMap, ← List.filterMap_eq_map]
  refine List.filterMap_congr fun entry _ => ?_
  obtain ⟨l, s⟩ := entry
  have digits : ∀ t : UInt8, escape ("0x" ++ hexUpper 2 t.toNat) = "0x" ++ hexUpper 2 t.toNat := by
    intro t
    exact (Plain.append_iff.mpr ⟨by decide, Plain.hexUpper t⟩).escape
  simp only [DeviceFamily.sample, DeviceFamily.read, Option.map_some, Function.comp_apply, Sample.text_pairs, Sample.more_append]
  cases s.firmware <;> cases s.transactionId <;> cases m.exposeSerial <;> cases s.serial <;>
    simp [← String.toList_inj, Sample.pair, DeviceFamily.name, digits]

def counterSamples (family : CounterFamily) : List Sample :=
  (family.entries m.inner).toList.map fun entry => family.sample entry.1 entry.2

theorem counter_samples (family : CounterFamily) :
    ((family.entries m.inner).keys.map (Series.counter family)).filterMap (Series.sample m) = m.counterSamples family := by
  rw [counterSamples, List.filterMap_map, ← List.filterMap_eq_map]
  refine Collections.filterMap_keys (family.entries m.inner) fun key n stored => ?_
  rw [Function.comp_apply, Series.sample, stored, Option.map_some]
  rfl

theorem counters_eq (family : CounterFamily) :
    counters family.name family.label (family.entries m.inner) = (m.counterSamples family).map Sample.text := by
  rw [counters, counterSamples, List.map_map]
  refine List.map_congr_left fun entry _ => ?_
  rw [Function.comp_apply, CounterFamily.sample, Sample.text_pairs]
  simp [← String.toList_inj, Sample.pair]

def rows (key : SeriesKey) (h : Histogram) : List Sample :=
  Row.all.filterMap (Row.sample key h)

def latencySamples : List Sample :=
  m.inner.latency.toList.flatMap fun entry => rows entry.1 entry.2

theorem latency_samples :
    (m.inner.latency.keys.flatMap fun key => Row.all.map (Series.latency key)).filterMap (Series.sample m) =
      m.latencySamples := by
  rw [latencySamples, List.filterMap_flatMap, ← Std.ExtTreeMap.map_fst_toList_eq_keys, List.flatMap_map]
  refine List.flatMap_congr fun entry member => ?_
  have stored := Std.ExtTreeMap.mem_toList_iff_getElem?_eq_some.mp member
  rw [List.filterMap_map, rows]
  refine List.filterMap_congr fun row _ => ?_
  rw [Function.comp_apply, Series.sample, stored, Option.bind_some]

theorem row_text (key : SeriesKey) (name : String) (le : List (String × String)) (value : String) :
    Sample.text ⟨name, key.1.pairs ++ ("command", key.2) :: le, value⟩ =
      name ++ "\x7b" ++ (key.1.render ++ ",command=\x22" ++ escape key.2 ++ "\x22") ++ Sample.more le ++ "\x7d " ++ value := by
  simp [← String.toList_inj, Sample.text_pairs, Sample.pair]

theorem plain_shown : ∀ b ∈ LATENCY_BUCKETS, Plain b.shown := by
  decide +kernel

/-- With a slot for each bound, a histogram is written in full. -/
theorem histogram_eq {key : SeriesKey} {h : Histogram} (slots : h.counts.length = LATENCY_BUCKETS.length) :
    histogram key.1 key.2 h = some ((rows key h).map Sample.text) := by
  obtain ⟨slot, found⟩ : ∃ slot : Fin LATENCY_BUCKETS.length → UInt64, ∀ i, h.counts[i.val]? = some (slot i) :=
    ⟨fun i => h.counts.get (i.cast slots.symm), fun i => List.getElem?_eq_getElem _⟩
  have bounds : LATENCY_BUCKETS.zipIdx = (List.finRange LATENCY_BUCKETS.length).map fun i => (LATENCY_BUCKETS[i], i.val) :=
    List.ext_getElem (by simp) (by simp)
  have buckets : (List.finRange LATENCY_BUCKETS.length).filterMap (Row.sample key h ∘ Row.bucket) =
      (List.finRange LATENCY_BUCKETS.length).map fun i =>
        ⟨Row.name (.bucket i), key.1.pairs ++ ("command", key.2) :: Row.le (.bucket i), Nat.repr (slot i).toNat⟩ := by
    rw [← List.filterMap_eq_map]
    refine List.filterMap_congr fun i _ => ?_
    rw [Function.comp_apply, Row.sample, Row.read, Fin.getElem?_fin, found]
    rfl
  have shown : ∀ i : Fin LATENCY_BUCKETS.length, Sample.more (Row.le (.bucket i)) =
      ",le=\x22" ++ LATENCY_BUCKETS[i].shown ++ "\x22" := by
    intro i
    have plain : escape LATENCY_BUCKETS[i].shown = LATENCY_BUCKETS[i].shown := (plain_shown _ (List.getElem_mem _)).escape
    rw [Row.le, Sample.more_cons, Sample.more_nil, Sample.pair, plain]
    simp [← String.toList_inj]
  rw [histogram, bounds, List.mapM_map]
  simp only [Function.comp_def, found, Option.bind_eq_bind, Option.bind_some, Option.pure_def]
  rw [Collections.mapM_of_each fun _ _ => rfl, Option.bind_some, rows, Row.all, List.filterMap_append, List.filterMap_map,
    buckets, List.map_append, List.map_map]
  refine congrArg some (congrArg₂ (· ++ ·) ?_ ?_)
  · refine List.map_congr_left fun i _ => ?_
    rw [Function.comp_apply, row_text, shown]
    simp [← String.toList_inj, Row.name]
  · have inf : escape "+Inf" = "+Inf" := Plain.escape (by decide)
    simp [← String.toList_inj, Row.sample, Row.read, Row.name, Row.le, row_text, Sample.pair, inf]

end Metrics

/-- Lines made of these headings and these samples. -/
def Layout (headings : List Heading) (samples : List Sample) (strings : List String) : Prop :=
  ∃ lines : List Line, lines.map Line.text = strings ∧ lines.filterMap Line.comment? = headings.flatMap Heading.lines ∧
    lines.filterMap Line.sample? = samples

namespace Layout

theorem family {name help type : String} {samples : List Sample} {strings : List String}
    (same : strings = samples.map Sample.text) :
    Layout [⟨name, help, type⟩] samples (Metrics.family name help type strings) := by
  refine ⟨(Metrics.family name help type []).map Line.comment ++ samples.map Line.sample, ?_, ?_, ?_⟩
  · rw [List.map_append, List.map_map, List.map_map, same]
    rfl
  · have none : Line.comment? ∘ Line.sample = fun _ => Option.none := rfl
    rw [List.filterMap_append, List.filterMap_map, List.filterMap_map, none, List.filterMap_none, List.append_nil,
      List.flatMap_singleton]
    rfl
  · have all : Line.sample? ∘ Line.sample = some := rfl
    rw [List.filterMap_append, List.filterMap_map, List.filterMap_map, all, List.filterMap_some]
    rfl

theorem append {headings headings' : List Heading} {samples samples' : List Sample} {strings strings' : List String}
    (first : Layout headings samples strings) (second : Layout headings' samples' strings') :
    Layout (headings ++ headings') (samples ++ samples') (strings ++ strings') := by
  obtain ⟨lines, text, comments, all⟩ := first
  obtain ⟨lines', text', comments', all'⟩ := second
  refine ⟨lines ++ lines', ?_, ?_, ?_⟩
  · rw [List.map_append, text, text']
  · rw [List.filterMap_append, comments, comments', List.flatMap_append]
  · rw [List.filterMap_append, all, all']

end Layout

namespace Metrics

theorem version_eq : ["razer_build_info\x7bversion=\x22" ++ escape VERSION ++ "\x22\x7d 1"] =
    [(⟨"razer_build_info", [("version", VERSION)], "1"⟩ : Sample)].map Sample.text := by
  simp [← String.toList_inj, Sample.text, Sample.braces, Sample.pair]

theorem bare_eq (name : String) {front value : String} (same : front = name ++ " ") :
    [front ++ value] = [(⟨name, [], value⟩ : Sample)].map Sample.text := by
  rw [List.map_singleton, Sample.text, Sample.braces, String.append_empty, same]

theorem samples_eq (m : Metrics) (elapsed : Duration) :
    m.samples elapsed = opening elapsed ++ DeviceFamily.all.flatMap m.deviceSamples ++
      CounterFamily.all.flatMap m.counterSamples ++ m.latencySamples ++ closing m.inner := by
  rw [samples, series_samples, candidates, List.filterMap_append, List.filterMap_append, latency_samples,
    List.filterMap_flatMap, List.filterMap_flatMap]
  simp only [device_samples, counter_samples, List.append_assoc]

set_option maxRecDepth 2000 in
theorem lines_layout : ∃ headings : List Heading, (∀ h ∈ headings, ∀ line ∈ h.lines, '\n' ∉ line.toList) ∧
    ∀ (m : Metrics) (elapsed : Duration), Slots m.inner →
    ∃ strings, m.lines elapsed = some strings ∧ Layout headings (m.samples elapsed) strings := by
  refine ⟨?headings, ?plain, ?texts⟩
  case texts =>
    intro m elapsed slots
    have latency : m.inner.latency.toList.mapM (fun entry => histogram entry.1.1 entry.1.2 entry.2) =
        some (m.inner.latency.toList.map fun entry => (rows entry.1 entry.2).map Sample.text) := by
      refine Collections.mapM_of_each fun entry member => histogram_eq (slots entry.1 entry.2 ?_)
      exact Std.ExtTreeMap.mem_toList_iff_getElem?_eq_some.mp member
    have split : m.lines elapsed = (m.inner.latency.toList.mapM fun entry => histogram entry.1.1 entry.1.2 entry.2).bind _ := rfl
    have rowTexts : (m.inner.latency.toList.map fun entry => (rows entry.1 entry.2).map Sample.text).flatten =
        m.latencySamples.map Sample.text := by
      rw [latencySamples, List.map_flatMap]
      rfl
    have regroup : m.samples elapsed =
        [⟨"razer_build_info", [("version", VERSION)], "1"⟩] ++
        [⟨"razer_uptime_seconds", [], Binary64.fixed 3 (.ofNanos elapsed.nanos)⟩] ++
        m.deviceSamples .info ++ m.deviceSamples .present ++ m.deviceSamples .usbDevnum ++ m.deviceSamples .kernelDriver ++
        m.deviceSamples .mode ++ m.deviceSamples .pollRate ++ m.deviceSamples .brightness ++
        m.counterSamples .transactions ++ m.counterSamples .attempts ++ m.counterSamples .errors ++ m.latencySamples ++
        [⟨"razer_polls_total", [], Nat.repr m.inner.polls.toNat⟩] ++
        [⟨"razer_poll_failures_total", [], Nat.repr m.inner.pollFailures.toNat⟩] ++
        [⟨"razer_poll_duration_seconds", [], Binary64.fixed 6 m.inner.lastPollDuration⟩] := by
      simp [samples_eq, opening, closing, DeviceFamily.all, CounterFamily.all]
    refine ⟨_, by rw [split, latency, Option.bind_some, rowTexts]; rfl, ?_⟩
    rw [regroup]
    refine .append (.append (.append (.append (.append (.append (.append (.append (.append (.append (.append (.append (.append
      (.append (.append (.family version_eq) (.family (bare_eq "razer_uptime_seconds" ?uptime)))
      (.family m.deviceInfo_eq)) (.family (m.gauges_eq .present ?present))) (.family (m.gauges_eq .usbDevnum ?usbDevnum)))
      (.family m.kernelDriver_eq)) (.family (m.gauges_eq .mode ?mode))) (.family (m.gauges_eq .pollRate ?pollRate)))
      (.family (m.gauges_eq .brightness ?brightness))) (.family (m.counters_eq .transactions)))
      (.family (m.counters_eq .attempts))) (.family (m.counters_eq .errors))) (.family rfl))
      (.family (bare_eq "razer_polls_total" ?polls))) (.family (bare_eq "razer_poll_failures_total" ?failures)))
      (.family (bare_eq "razer_poll_duration_seconds" ?duration))
    case present => exact fun _ => rfl
    case usbDevnum | mode | pollRate | brightness =>
      intro s
      rw [Option.map_map]
      rfl
    case uptime | polls | failures | duration => simp
  case plain =>
    simp only [List.forall_mem_append, List.forall_mem_singleton]
    and_intros
    all_goals exact Heading.lines_one_line rfl rfl rfl (by decide +kernel)

/-- With a slot for every bound, rendering finds what it indexes. -/
theorem render_some {m : Metrics} (slots : Slots m.inner) (elapsed : Duration) : ∃ text, m.render elapsed = some text := by
  obtain ⟨_, _, layout⟩ := lines_layout
  obtain ⟨strings, written, _⟩ := layout m elapsed slots
  exact ⟨_, by rw [render, written]; rfl⟩

end Metrics

end OpenRazer
