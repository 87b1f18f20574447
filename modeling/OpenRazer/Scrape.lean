import OpenRazer.Exposition
import OpenRazer.History

namespace OpenRazer

/-- To a scraper, one and the same series: a metric name and a set of labels. -/
def Sample.Same (a b : Sample) : Prop :=
  a.name = b.name ∧ ∀ label, label ∈ a.labels ↔ label ∈ b.labels

/-- The names of the labels behind those of the device. -/
def FURTHER_LABELS : List String :=
  ["firmware", "transaction_id", "serial", "driver", "command", "reason", "le"]

def Further (labels : List (String × String)) : Prop :=
  ∀ label ∈ labels, label.1 ∈ FURTHER_LABELS

theorem plain_further : ∀ name ∈ FURTHER_LABELS, Plain name ∧ name ≠ "device" ∧ name ≠ "pid" := by
  decide +kernel

theorem plain_pairs (l : DeviceLabels) : ∀ label ∈ l.pairs, Plain label.1 := by
  simp only [DeviceLabels.pairs, List.forall_mem_cons]
  exact ⟨by decide, by decide, List.forall_mem_nil _⟩

theorem plain_labels {l : DeviceLabels} {extra : List (String × String)} (further : Further extra) :
    ∀ label ∈ l.pairs ++ extra, Plain label.1 := by
  rw [List.forall_mem_append]
  exact ⟨plain_pairs l, fun label member => (plain_further label.1 (further label member)).1⟩

/-- The label set of a sample gives away its device. -/
theorem owner_of_labels {l l' : DeviceLabels} {extra extra' : List (String × String)}
    (further : Further extra) (further' : Further extra')
    (same : ∀ label, label ∈ l.pairs ++ extra ↔ label ∈ l'.pairs ++ extra') :
    l = l' ∧ ∀ label, label ∈ extra ↔ label ∈ extra' := by
  have device : l.device = l'.device := by
    have listed := (same ("device", l.device)).mp (by simp [DeviceLabels.pairs])
    rcases List.mem_append.mp listed with own | other
    · simpa [DeviceLabels.pairs] using own
    · exact absurd rfl (plain_further _ (further' _ other)).2.1
  have pid : l.pid = l'.pid := by
    have listed := (same ("pid", l.pid)).mp (by simp [DeviceLabels.pairs])
    rcases List.mem_append.mp listed with own | other
    · simpa [DeviceLabels.pairs] using own
    · exact absurd rfl (plain_further _ (further' _ other)).2.2
  have owner : l = l' := by
    obtain ⟨_, _⟩ := l
    exact DeviceLabels.mk.injEq .. ▸ ⟨device, pid⟩
  subst owner
  refine ⟨rfl, fun label => ?_⟩
  have apart : ∀ {labels : List (String × String)}, Further labels → label ∈ labels → label ∉ l.pairs := by
    intro labels named member own
    obtain ⟨_, notDevice, notPid⟩ := plain_further label.1 (named label member)
    simp only [DeviceLabels.pairs, List.mem_cons, List.not_mem_nil, or_false] at own
    rcases own with rfl | rfl
    · exact notDevice rfl
    · exact notPid rfl
  have both := same label
  simp only [List.mem_append] at both
  exact ⟨fun member => (both.mp (Or.inr member)).resolve_left (apart further member),
    fun member => (both.mpr (Or.inr member)).resolve_left (apart further' member)⟩

theorem further_nil : Further [] :=
  List.forall_mem_nil _

theorem further_cons {name : String} (named : name ∈ FURTHER_LABELS) (value : String) {rest : List (String × String)}
    (others : Further rest) : Further ((name, value) :: rest) :=
  List.forall_mem_cons.mpr ⟨named, others⟩

/-- A label that is left out where there is no value. -/
theorem further_optional {A : Type} {name : String} (named : name ∈ FURTHER_LABELS) (value : A → String) (stored : Option A) :
    Further (stored.toList.map fun v => (name, value v)) := by
  intro label member
  obtain ⟨v, _, rfl⟩ := List.mem_map.mp member
  exact named

namespace DeviceFamily

theorem read_further {family : DeviceFamily} {exposeSerial : Bool} {s : DeviceState} {said : List (String × String) × String}
    (read : family.read exposeSerial s = some said) : Further said.1 ∧ Plain said.2 := by
  have one : Plain "1" := by decide
  cases family with
  | info =>
    obtain rfl := Option.some.inj read
    refine ⟨List.forall_mem_append.mpr ⟨List.forall_mem_append.mpr ⟨?_, ?_⟩, ?_⟩, one⟩
    · exact further_optional (by decide) _ _
    · exact further_optional (by decide) _ _
    · split
      · exact further_optional (by decide) _ _
      · exact further_nil
  | present =>
    obtain rfl := Option.some.inj read
    exact ⟨further_nil, Plain.repr _⟩
  | kernelDriver =>
    obtain ⟨d, _, rfl⟩ := Option.map_eq_some_iff.mp read
    exact ⟨further_cons (by decide) d further_nil, one⟩
  | usbDevnum | mode | pollRate =>
    obtain ⟨v, _, rfl⟩ := Option.map_eq_some_iff.mp read
    exact ⟨further_nil, Plain.repr _⟩
  | brightness =>
    obtain ⟨b, _, rfl⟩ := Option.map_eq_some_iff.mp read
    exact ⟨further_nil, Plain.fixed _ _⟩

theorem mem_all (family : DeviceFamily) : family ∈ all := by
  cases family <;> decide

theorem name_mem (family : DeviceFamily) : family.name ∈ all.map name :=
  List.mem_map_of_mem family.mem_all

theorem name_injective {family family' : DeviceFamily} (same : family.name = family'.name) : family = family' := by
  cases family <;> cases family' <;> first | rfl | exact absurd same (by decide)

end DeviceFamily

namespace CounterFamily

theorem mem_all (family : CounterFamily) : family ∈ all := by
  cases family <;> decide

theorem name_mem (family : CounterFamily) : family.name ∈ all.map name :=
  List.mem_map_of_mem family.mem_all

theorem name_injective {family family' : CounterFamily} (same : family.name = family'.name) : family = family' := by
  cases family <;> cases family' <;> first | rfl | exact absurd same (by decide)

end CounterFamily

namespace Row

def NAMES : List String := [
  "razer_transaction_duration_seconds_bucket", "razer_transaction_duration_seconds_sum",
  "razer_transaction_duration_seconds_count"]

theorem mem_all (row : Row) : row ∈ all := by
  cases row <;> simp [all]

theorem name_mem (row : Row) : row.name ∈ NAMES := by
  cases row <;> simp [name, NAMES]

theorem shown_injective :
    ∀ i j : Fin LATENCY_BUCKETS.length, (LATENCY_BUCKETS.get i).shown = (LATENCY_BUCKETS.get j).shown → i = j := by
  decide +kernel

theorem shown_ne_inf : ∀ i : Fin LATENCY_BUCKETS.length, (LATENCY_BUCKETS.get i).shown ≠ "+Inf" := by
  decide +kernel

theorem eq_of_same {row row' : Row} (name : row.name = row'.name) (le : ∀ label, label ∈ row.le ↔ label ∈ row'.le) :
    row = row' := by
  cases row with
  | bucket i =>
    have listed := (le ("le", LATENCY_BUCKETS[i].shown)).mp List.mem_cons_self
    cases row' with
    | bucket j => exact congrArg bucket (shown_injective i j (by simpa [Row.le] using listed))
    | inf => exact absurd (by simpa [Row.le] using listed) (shown_ne_inf i)
    | sum | count => exact absurd listed List.not_mem_nil
  | inf =>
    have listed := (le ("le", "+Inf")).mp List.mem_cons_self
    cases row' with
    | bucket j => exact absurd (by simpa [Row.le] using listed) (shown_ne_inf j).symm
    | inf => rfl
    | sum | count => exact absurd listed List.not_mem_nil
  | sum => cases row' <;> first | rfl | exact absurd name (by simp [Row.name])
  | count => cases row' <;> first | rfl | exact absurd name (by simp [Row.name])

theorem le_further (row : Row) : Further row.le := by
  cases row with
  | bucket i => exact further_cons (by decide) _ further_nil
  | inf => exact further_cons (by decide) _ further_nil
  | sum | count => exact further_nil

theorem command_not_mem_le (row : Row) (cmd : String) : ("command", cmd) ∉ row.le := by
  cases row <;> simp [le]

theorem read_plain {row : Row} {h : Histogram} {value : String} (read : row.read h = some value) : Plain value := by
  cases row with
  | bucket i =>
    obtain ⟨n, _, rfl⟩ := Option.map_eq_some_iff.mp read
    exact Plain.repr _
  | sum =>
    obtain rfl := Option.some.inj read
    exact Plain.fixed _ _
  | inf | count =>
    obtain rfl := Option.some.inj read
    exact Plain.repr _

end Row

/-- The names of the samples that every registry has, in front of the others and behind them. -/
def Metrics.OPENING : List String :=
  ["razer_build_info", "razer_uptime_seconds"]

def Metrics.CLOSING : List String :=
  ["razer_polls_total", "razer_poll_failures_total", "razer_poll_duration_seconds"]

namespace Series

def name : Series → String
  | .device family _ => family.name
  | .counter family _ => family.name
  | .latency _ row => row.name

def owner : Series → DeviceLabels
  | .device _ l => l
  | .counter _ key => key.1
  | .latency key _ => key.1

variable {m : Metrics} {a b : Sample}

/-- What is known of a sample: where it comes from and how it is labelled. -/
structure Origin (s : Series) (a : Sample) (extra : List (String × String)) : Prop where
  name : a.name = s.name
  labels : a.labels = s.owner.pairs ++ extra
  further : Further extra
  value : Plain a.value
  key : ∀ family key, s = .counter family key → extra = [(family.label, key.2)]
  row : ∀ key row, s = .latency key row → extra = ("command", key.2) :: row.le

theorem origin {s : Series} (found : s.sample m = some a) : ∃ extra, s.Origin a extra := by
  cases s with
  | device family l =>
    obtain ⟨state, _, said⟩ := Option.bind_eq_some_iff.mp found
    obtain ⟨labels, read, rfl⟩ := Option.map_eq_some_iff.mp said
    have formed := DeviceFamily.read_further read
    exact ⟨labels.1, rfl, rfl, formed.1, formed.2, nofun, nofun⟩
  | counter family key =>
    obtain ⟨n, _, rfl⟩ := Option.map_eq_some_iff.mp found
    have named : family.label ∈ FURTHER_LABELS := by cases family <;> decide
    refine ⟨_, rfl, rfl, further_cons named key.2 further_nil, Plain.repr _, ?_, nofun⟩
    rintro _ _ ⟨⟩
    rfl
  | latency key row =>
    obtain ⟨h, _, said⟩ := Option.bind_eq_some_iff.mp found
    obtain ⟨value, read, rfl⟩ := Option.map_eq_some_iff.mp said
    refine ⟨_, rfl, rfl, further_cons (by decide) key.2 row.le_further, Row.read_plain read, nofun, ?_⟩
    rintro _ _ ⟨⟩
    rfl

/-- The names of the metrics, those of the samples of a histogram in place of its own. -/
def NAMES : List String :=
  DeviceFamily.all.map DeviceFamily.name ++ CounterFamily.all.map CounterFamily.name ++ Row.NAMES

theorem names_apart : (Metrics.OPENING ++ NAMES ++ Metrics.CLOSING).Nodup := by
  decide +kernel

theorem name_mem (s : Series) : s.name ∈ NAMES := by
  rw [NAMES, List.mem_append, List.mem_append]
  cases s with
  | device family l => exact Or.inl (Or.inl family.name_mem)
  | counter family key => exact Or.inl (Or.inr family.name_mem)
  | latency key row => exact Or.inr row.name_mem

theorem plain_name (s : Series) : Plain s.name := by
  cases s with
  | device family l => cases family <;> exact Plain.of_spelling rfl rfl
  | counter family key => cases family <;> exact Plain.of_spelling rfl rfl
  | latency key row => cases row <;> exact Plain.of_spelling rfl rfl

theorem sample_wellFormed {s : Series} (found : s.sample m = some a) : a.WellFormed := by
  obtain ⟨extra, origin⟩ := origin found
  refine ⟨origin.name ▸ s.plain_name, ?_, origin.value⟩
  rw [origin.labels]
  exact plain_labels origin.further

theorem sample_injective {s s' : Series} (found : s.sample m = some a) (found' : s'.sample m = some b) (same : a.Same b) :
    s = s' := by
  obtain ⟨extra, origin⟩ := origin found
  obtain ⟨extra', origin'⟩ := Series.origin found'
  have names : s.name = s'.name := origin.name.symm.trans (same.1.trans origin'.name)
  have labels := same.2
  rw [origin.labels, origin'.labels] at labels
  obtain ⟨owner, further⟩ := owner_of_labels origin.further origin'.further labels
  have own : NAMES.Nodup := (List.nodup_append.mp (List.nodup_append.mp names_apart).1).2.1
  obtain ⟨devicesCounters, _, apart⟩ := List.nodup_append.mp own
  have apart' := (List.nodup_append.mp devicesCounters).2.2
  cases s with
  | device family l =>
    cases s' with
    | device family' l' =>
      obtain rfl : family = family' := DeviceFamily.name_injective names
      exact congrArg (device family) owner
    | counter family' key => exact absurd names (apart' _ family.name_mem _ family'.name_mem)
    | latency key row => exact absurd names (apart _ (List.mem_append_left _ family.name_mem) _ row.name_mem)
  | counter family key =>
    cases s' with
    | device family' l => exact absurd names.symm (apart' _ family'.name_mem _ family.name_mem)
    | counter family' key' =>
      obtain rfl : family = family' := CounterFamily.name_injective names
      rw [origin.key family key rfl, origin'.key family key' rfl] at further
      have what : key.2 = key'.2 := by simpa using (further (family.label, key.2)).mp List.mem_cons_self
      exact congrArg (counter family) (Prod.ext owner what)
    | latency key' row => exact absurd names (apart _ (List.mem_append_right _ family.name_mem) _ row.name_mem)
  | latency key row =>
    cases s' with
    | device family l => exact absurd names.symm (apart _ (List.mem_append_left _ family.name_mem) _ row.name_mem)
    | counter family key' => exact absurd names.symm (apart _ (List.mem_append_right _ family.name_mem) _ row.name_mem)
    | latency key' row' =>
      rw [origin.row key row rfl, origin'.row key' row' rfl] at further
      have command : key.2 = key'.2 := by
        have listed := (further ("command", key.2)).mp List.mem_cons_self
        simpa using (List.mem_cons.mp listed).resolve_right (row'.command_not_mem_le key.2)
      have le : ∀ label, label ∈ row.le ↔ label ∈ row'.le := by
        intro label
        have both := further label
        rw [← command, List.mem_cons, List.mem_cons] at both
        by_cases here : label = ("command", key.2)
        · rw [here]
          exact iff_of_false (row.command_not_mem_le _) (row'.command_not_mem_le _)
        · rwa [or_iff_right here, or_iff_right here] at both
      obtain rfl : row = row' := Row.eq_of_same names le
      obtain rfl : key = key' := Prod.ext owner command
      rfl

end Series

namespace Metrics

variable (m : Metrics)

theorem nodup_candidates : (candidates m.inner).Nodup := by
  have devices := Collections.nodup_flatMap_map (f := Series.device) (fun same => Series.device.inj same)
    (by decide : DeviceFamily.all.Nodup) fun _ => m.inner.devices.nodup_keys
  have counters := Collections.nodup_flatMap_map (f := Series.counter) (fun same => Series.counter.inj same)
    (by decide : CounterFamily.all.Nodup) fun family => (family.entries m.inner).nodup_keys
  have latencies := Collections.nodup_flatMap_map (f := Series.latency) (fun same => Series.latency.inj same)
    m.inner.latency.nodup_keys fun _ => (by decide : Row.all.Nodup)
  have counterOrDevice : List.Disjoint
      (DeviceFamily.all.flatMap fun family => m.inner.devices.keys.map (Series.device family))
      (CounterFamily.all.flatMap fun family => (family.entries m.inner).keys.map (Series.counter family)) := by
    intro s device counter
    simp only [List.mem_flatMap, List.mem_map] at device counter
    obtain ⟨_, _, _, _, rfl⟩ := device
    obtain ⟨_, _, _, _, same⟩ := counter
    cases same
  rw [candidates, List.nodup_append', List.nodup_append']
  refine ⟨⟨devices, counters, counterOrDevice⟩, latencies, ?_⟩
  intro s other latency
  simp only [List.mem_append, List.mem_flatMap, List.mem_map] at other latency
  obtain ⟨_, _, _, _, rfl⟩ := latency
  rcases other with ⟨_, _, _, _, same⟩ | ⟨_, _, _, _, same⟩
  · cases same
  · cases same

theorem mem_series (s : Series) : s ∈ m.series ↔ (s.sample m).isSome := by
  rw [series, List.mem_filter]
  refine and_iff_right_of_imp fun present => ?_
  obtain ⟨a, found⟩ := Option.isSome_iff_exists.mp present
  simp only [candidates, List.mem_append, List.mem_flatMap, List.mem_map]
  cases s with
  | device family l =>
    obtain ⟨state, stored, _⟩ := Option.bind_eq_some_iff.mp found
    exact Or.inl (Or.inl ⟨family, family.mem_all, l, Collections.mem_keys_of_stored stored, rfl⟩)
  | counter family key =>
    obtain ⟨n, stored, _⟩ := Option.map_eq_some_iff.mp found
    exact Or.inl (Or.inr ⟨family, family.mem_all, key, Collections.mem_keys_of_stored stored, rfl⟩)
  | latency key row =>
    obtain ⟨h, stored, _⟩ := Option.bind_eq_some_iff.mp found
    exact Or.inr ⟨key, Collections.mem_keys_of_stored stored, row, row.mem_all, rfl⟩

theorem opening_names (elapsed : Duration) : (opening elapsed).map Sample.name = OPENING := rfl

theorem closing_names (g : Inner) : (closing g).map Sample.name = CLOSING := rfl

theorem series_names : ∀ a ∈ m.series.filterMap (Series.sample m), a.name ∈ Series.NAMES := by
  intro a member
  obtain ⟨s, _, found⟩ := List.mem_filterMap.mp member
  obtain ⟨_, origin⟩ := Series.origin found
  exact origin.name ▸ s.name_mem

theorem wellFormed_samples (elapsed : Duration) : ∀ a ∈ m.samples elapsed, a.WellFormed := by
  have bare : ∀ {n v : String}, Plain n → Plain v → Sample.WellFormed ⟨n, [], v⟩ :=
    fun name value => ⟨name, List.forall_mem_nil _, value⟩
  have version : Sample.WellFormed ⟨"razer_build_info", [("version", VERSION)], "1"⟩ :=
    ⟨.of_spelling rfl rfl, List.forall_mem_singleton.mpr (.of_spelling rfl rfl), .of_spelling rfl rfl⟩
  have uptime := bare (n := "razer_uptime_seconds") (.of_spelling rfl rfl) (Plain.fixed 3 (.ofNanos elapsed.nanos))
  have polls := bare (n := "razer_polls_total") (.of_spelling rfl rfl) (Plain.repr m.inner.polls.toNat)
  have failures := bare (n := "razer_poll_failures_total") (.of_spelling rfl rfl) (Plain.repr m.inner.pollFailures.toNat)
  have duration := bare (n := "razer_poll_duration_seconds") (.of_spelling rfl rfl) (Plain.fixed 6 m.inner.lastPollDuration)
  have series : ∀ a ∈ m.series.filterMap (Series.sample m), a.WellFormed := by
    intro a member
    obtain ⟨s, _, found⟩ := List.mem_filterMap.mp member
    exact Series.sample_wellFormed found
  simp only [samples, opening, closing, List.forall_mem_append, List.forall_mem_cons]
  exact ⟨⟨⟨version, uptime, List.forall_mem_nil _⟩, series⟩, polls, failures, duration, List.forall_mem_nil _⟩

theorem apart_of_names {as : List Sample} (names : (as.map Sample.name).Nodup) : as.Pairwise fun a b => ¬ a.Same b :=
  (List.pairwise_map.mp names).imp fun apart same => apart same.1

theorem samples_apart (elapsed : Duration) : (m.samples elapsed).Pairwise fun a b => ¬ a.Same b := by
  obtain ⟨front, closings, behind⟩ := List.nodup_append.mp Series.names_apart
  obtain ⟨openings, _, between⟩ := List.nodup_append.mp front
  have series : (m.series.filterMap (Series.sample m)).Pairwise fun a b => ¬ a.Same b := by
    rw [List.pairwise_filterMap]
    refine (m.nodup_candidates.filter _).imp fun {s s'} apart a found b found' same => ?_
    exact apart (Series.sample_injective found found' same)
  have opened : ∀ a ∈ opening elapsed, a.name ∈ OPENING := fun a member =>
    opening_names elapsed ▸ List.mem_map_of_mem member
  have closed : ∀ a ∈ closing m.inner, a.name ∈ CLOSING := fun a member =>
    closing_names m.inner ▸ List.mem_map_of_mem member
  have openingSeries : ∀ a ∈ opening elapsed, ∀ b ∈ m.series.filterMap (Series.sample m), ¬ a.Same b := by
    intro a first b second same
    exact between _ (opened a first) _ (m.series_names b second) same.1
  rw [samples, List.pairwise_append, List.pairwise_append]
  refine ⟨⟨apart_of_names openings, series, openingSeries⟩, apart_of_names closings, ?_⟩
  intro a first b second same
  have listed : a.name ∈ OPENING ++ Series.NAMES := by
    rcases List.mem_append.mp first with atFront | present
    · exact List.mem_append_left _ (opened a atFront)
    · exact List.mem_append_right _ (m.series_names a present)
  exact behind a.name listed b.name (closed b second) same.1

end Metrics

/-- What a scraper finds in the text of a registry. -/
structure Faithful (headings : List Heading) (m : Metrics) (elapsed : Duration) (text : String) (lines : List Line) : Prop where
  split : text.toList.splitOn '\n' = lines.map (fun line => line.text.toList) ++ [[]]
  comments : lines.filterMap Line.comment? = headings.flatMap Heading.lines
  samples : lines.filterMap Line.sample? =
    Metrics.opening elapsed ++ m.series.filterMap (Series.sample m) ++ Metrics.closing m.inner
  present : m.series.Nodup ∧ ∀ s, s ∈ m.series ↔ (s.sample m).isSome
  rows : ∀ key ∈ m.inner.latency, ∀ row, .latency key row ∈ m.series
  values : ∀ s ∈ lines.filterMap Line.sample?, Sample.labelValues s.text = s.labels.map Prod.snd
  apart : (lines.filterMap Line.sample?).Pairwise fun a b => ¬ a.Same b

theorem Records.slots {g : Inner} {history : List Transaction} (records : Records g history) : Slots g := by
  intro key h stored
  rw [records.latency.of_mem stored, Histogram.of, List.length_map]

/-- A latency entry has all its samples. -/
theorem rows_present {m : Metrics} (slots : Slots m.inner) {key : SeriesKey} (entry : key ∈ m.inner.latency) (row : Row) :
    ((Series.latency key row).sample m).isSome := by
  obtain ⟨h, stored⟩ := Option.isSome_iff_exists.mp (Std.ExtTreeMap.mem_iff_isSome_getElem?.mp entry)
  have read : (row.read h).isSome := by
    cases row with
    | bucket i =>
      have slot : i.val < h.counts.length := by
        rw [slots key h stored]
        exact i.isLt
      rw [Row.read, Fin.getElem?_fin, List.getElem?_eq_getElem slot]
      rfl
    | inf | sum | count => rfl
  rw [Series.sample, stored, Option.bind_some, Row.sample, Option.isSome_map, read]

/-- Rendering shows the registry faithfully, at every moment. -/
theorem Metrics.render_faithful : ∃ headings : List Heading, ∀ (m : Metrics) (elapsed : Duration), Slots m.inner →
    ∃ text lines, m.render elapsed = some text ∧ Faithful headings m elapsed text lines := by
  obtain ⟨headings, plain, layout⟩ := Metrics.lines_layout
  refine ⟨headings, fun m elapsed slots => ?_⟩
  obtain ⟨strings, written, lines, texts, comments, samples⟩ := layout m elapsed slots
  have one_line : ∀ line ∈ lines, '\n' ∉ line.text.toList := by
    intro line member
    cases line with
    | comment text =>
      have listed : text ∈ lines.filterMap Line.comment? := List.mem_filterMap.mpr ⟨_, member, rfl⟩
      rw [comments] at listed
      obtain ⟨heading, known, inside⟩ := List.mem_flatMap.mp listed
      exact plain heading known text inside
    | sample s =>
      have listed : s ∈ lines.filterMap Line.sample? := List.mem_filterMap.mpr ⟨_, member, rfl⟩
      rw [samples] at listed
      exact Sample.text_one_line (m.wellFormed_samples elapsed s listed)
  have rendered : m.render elapsed = some (String.join (strings.map (· ++ "\n"))) := by
    rw [Metrics.render, written]
    rfl
  have split : (String.join (strings.map (· ++ "\n"))).toList.splitOn '\n' =
      lines.map (fun line => line.text.toList) ++ [[]] := by
    rw [← texts, Collections.splitOn_lines (List.forall_mem_map.mpr one_line), List.map_map]
    rfl
  have rows : ∀ key ∈ m.inner.latency, ∀ row, .latency key row ∈ m.series := by
    intro key entry row
    exact (m.mem_series _).mpr (rows_present slots entry row)
  have values : ∀ s ∈ lines.filterMap Line.sample?, Sample.labelValues s.text = s.labels.map Prod.snd := by
    intro s member
    rw [samples] at member
    exact Sample.labelValues_text (m.wellFormed_samples elapsed s member)
  have apart : (lines.filterMap Line.sample?).Pairwise fun a b => ¬ a.Same b := by
    rw [samples]
    exact m.samples_apart elapsed
  have present : m.series.Nodup ∧ ∀ s, s ∈ m.series ↔ (s.sample m).isSome :=
    ⟨m.nodup_candidates.filter _, m.mem_series⟩
  exact ⟨_, lines, rendered, split, comments, samples, present, rows, values, apart⟩

theorem exposition_is_faithful :
    ∃ headings : List Heading, ∀ (exposeSerial : Bool) (calls : List Call) (elapsed : Duration), ∃ m text lines,
      Metrics.after exposeSerial calls = some m ∧ m.render elapsed = some text ∧ Faithful headings m elapsed text lines := by
  obtain ⟨headings, faithful⟩ := Metrics.render_faithful
  refine ⟨headings, fun exposeSerial calls elapsed => ?_⟩
  obtain ⟨m, after, records⟩ := Records.after exposeSerial calls
  obtain ⟨text, lines, rendered, shown⟩ := faithful m elapsed records.slots
  exact ⟨m, text, lines, after, rendered, shown⟩

/-- A line that a scraper takes for a sample: neither blank nor a comment. -/
def tellsSample (line : List Char) : Bool :=
  match line with
  | [] => false
  | c :: _ => c != '#'

/-- The lines of a text that are samples, in order. -/
def sampleLines (text : String) : List (List Char) :=
  (text.toList.splitOn '\n').filter tellsSample

/-- What a scraper reads off a text: a sample for each line that is one, with its label values. -/
structure Scraped (text : String) (samples : List Sample) : Prop where
  lines : sampleLines text = samples.map fun s => s.text.toList
  values : ∀ s ∈ samples, Sample.labelValues s.text = s.labels.map Prod.snd

theorem Heading.comment (h : Heading) : ∀ line ∈ h.lines, tellsSample line.toList = false := by
  intro line member
  rcases List.mem_cons.mp member with rfl | member
  · simp [tellsSample]
  · obtain rfl := List.mem_singleton.mp member
    simp [tellsSample]

theorem Metrics.samples_named (m : Metrics) (elapsed : Duration) :
    ∀ a ∈ m.samples elapsed, a.name ∈ OPENING ++ Series.NAMES ++ CLOSING := by
  intro a member
  simp only [samples, List.mem_append] at member ⊢
  rcases member with (opening | series) | closing
  · exact Or.inl (Or.inl (opening_names elapsed ▸ List.mem_map_of_mem opening))
  · exact Or.inl (Or.inr (m.series_names a series))
  · exact Or.inr (closing_names m.inner ▸ List.mem_map_of_mem closing)

theorem Metrics.tellsSample_text {m : Metrics} {elapsed : Duration} {a : Sample} (member : a ∈ m.samples elapsed) :
    tellsSample a.text.toList = true := by
  have front : ∀ name ∈ OPENING ++ Series.NAMES ++ CLOSING, name.toList.head? = some 'r' := by decide +kernel
  obtain ⟨rest, name⟩ := List.head?_eq_some_iff.mp (front a.name (m.samples_named elapsed a member))
  simp only [Sample.text, String.toList_append, name, List.cons_append, tellsSample]
  rfl

/-- Only the samples tell of samples. -/
theorem tellsSample_lines {lines : List Line} (comments : ∀ text ∈ lines.filterMap Line.comment?, tellsSample text.toList = false)
    (samples : ∀ s ∈ lines.filterMap Line.sample?, tellsSample s.text.toList = true) :
    (lines.map fun line => line.text.toList).filter tellsSample = (lines.filterMap Line.sample?).map fun s => s.text.toList := by
  induction lines with
  | nil => rfl
  | cons line lines ih =>
    cases line with
    | comment text =>
      obtain ⟨here, comments⟩ := List.forall_mem_cons.mp comments
      rw [List.map_cons, Line.text, List.filter_cons_of_neg (Bool.eq_false_iff.mp here)]
      exact ih comments samples
    | sample s =>
      obtain ⟨here, samples⟩ := List.forall_mem_cons.mp samples
      rw [List.map_cons, Line.text, List.filter_cons_of_pos here]
      exact congrArg (s.text.toList :: ·) (ih comments samples)

/-- At every moment the registry's text shows exactly its samples. -/
def Metrics.Shown (m : Metrics) : Prop :=
  ∀ elapsed, ∃ text, m.render elapsed = some text ∧ Scraped text (m.samples elapsed)

theorem Metrics.shown {m : Metrics} (slots : Slots m.inner) : m.Shown := by
  intro elapsed
  obtain ⟨headings, faithful⟩ := Metrics.render_faithful
  obtain ⟨text, lines, rendered, shown⟩ := faithful m elapsed slots
  have samples : lines.filterMap Line.sample? = m.samples elapsed := shown.samples
  have comments : ∀ text ∈ lines.filterMap Line.comment?, tellsSample text.toList = false := by
    rw [shown.comments]
    intro text member
    obtain ⟨heading, _, inside⟩ := List.mem_flatMap.mp member
    exact heading.comment text inside
  refine ⟨text, rendered, ?_, samples ▸ shown.values⟩
  rw [sampleLines, shown.split, List.filter_append, tellsSample_lines comments, samples]
  · exact List.append_nil _
  · rw [samples]
    exact fun a member => tellsSample_text member

end OpenRazer
