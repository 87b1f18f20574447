import OpenRazer.Privacy
import OpenRazer.Service

namespace OpenRazer

open Groups

/-- The samples that a scraper takes the rate of. -/
def COUNTERS : List String := [
  "razer_transactions_total", "razer_transaction_attempts_total", "razer_transaction_errors_total",
  "razer_transaction_duration_seconds_bucket", "razer_transaction_duration_seconds_count", "razer_polls_total",
  "razer_poll_failures_total"]

/-- The poll that a call reports, and whether it failed. -/
def Call.poll : Call → Option (Duration × Bool)
  | .recordPoll duration failed => some (duration, failed)
  | _ => none

def Call.state : Call → Option (DeviceLabels × DeviceState)
  | .setDeviceState labels state => some (labels, state)
  | _ => none

/-- The polls of a history. -/
def polls (calls : List Call) : List (Duration × Bool) :=
  calls.filterMap Call.poll

def failedPolls (calls : List Call) : List (Duration × Bool) :=
  (polls calls).filter Prod.snd

/-- The states of a history, each with its device. -/
def states (calls : List Call) : List (DeviceLabels × DeviceState) :=
  calls.filterMap Call.state

def labelled (t : DeviceLabels × DeviceState) : Option DeviceLabels :=
  some t.1

/-- The state that a history records last for a device. -/
def lastState (l : DeviceLabels) (calls : List Call) : Option DeviceState :=
  (filed labelled l (states calls)).getLast?.map Prod.snd

theorem polls_snoc (calls : List Call) (call : Call) : polls (calls ++ [call]) = polls calls ++ call.poll.toList := by
  rw [polls, List.filterMap_append, List.filterMap_cons]
  cases call.poll <;> rfl

theorem states_snoc (calls : List Call) (call : Call) : states (calls ++ [call]) = states calls ++ call.state.toList := by
  rw [states, List.filterMap_append, List.filterMap_cons]
  cases call.state <;> rfl

theorem lastState_same {calls : List Call} {call : Call} (stateless : call.state = none) (l : DeviceLabels) :
    lastState l (calls ++ [call]) = lastState l calls := by
  rw [lastState, states_snoc, stateless, Option.toList_none, List.append_nil, ← lastState]

/-- What the registry keeps of its polls and of the states of its devices. -/
structure Watches (g : Inner) (calls : List Call) : Prop where
  polls : g.polls = .ofNat (polls calls).length
  failures : g.pollFailures = .ofNat (failedPolls calls).length
  duration : g.lastPollDuration = ((OpenRazer.polls calls).getLast?.map fun p => Binary64.ofNanos p.1.nanos).getD 0
  states : ∀ l, g.devices[l]? = lastState l calls

namespace Watches

variable {g : Inner} {calls : List Call} {call : Call}

theorem new : Watches {} [] :=
  ⟨rfl, rfl, rfl, fun _ => Std.ExtTreeMap.getElem?_empty⟩

/-- A call that reports neither a poll nor a state. -/
theorem silent (watches : Watches g calls) {g' : Inner} (pollless : call.poll = none) (stateless : call.state = none)
    (kept : g'.polls = g.polls ∧ g'.pollFailures = g.pollFailures ∧ g'.lastPollDuration = g.lastPollDuration ∧
      g'.devices = g.devices) : Watches g' (calls ++ [call]) := by
  obtain ⟨polls, failures, duration, devices⟩ := kept
  have quiet : OpenRazer.polls (calls ++ [call]) = OpenRazer.polls calls := by
    rw [polls_snoc, pollless, Option.toList_none, List.append_nil]
  refine ⟨?_, ?_, ?_, fun l => ?_⟩
  · rw [polls, quiet, watches.polls]
  · rw [failures, failedPolls, quiet, watches.failures, failedPolls]
  · rw [duration, quiet, watches.duration]
  · rw [devices, lastState_same stateless, watches.states]

/-- Setting the state of a device is what is read of it, and of no other. -/
theorem set (watches : Watches g calls) (labels : DeviceLabels) (state : DeviceState) :
    Watches { g with devices := g.devices.insert labels state } (calls ++ [.setDeviceState labels state]) := by
  have quiet : OpenRazer.polls (calls ++ [.setDeviceState labels state]) = OpenRazer.polls calls := by
    rw [polls_snoc]
    exact List.append_nil _
  refine ⟨?_, ?_, ?_, fun l => ?_⟩
  · rw [quiet]
    exact watches.polls
  · rw [failedPolls, quiet]
    exact watches.failures
  · rw [quiet]
    exact watches.duration
  · rw [lastState, states_snoc, Std.ExtTreeMap.getElem?_insert]
    change _ = (filed labelled l (OpenRazer.states calls ++ [(labels, state)])).getLast?.map Prod.snd
    by_cases here : labels = l
    · subst here
      rw [filed_append_self (show labelled (labels, state) = some labels from rfl), if_pos (Std.ReflCmp.compare_self), List.getLast?_append_of_ne_nil _ (by simp)]
      rfl
    · have apart : compare labels l ≠ .eq := fun equal => here (Std.LawfulEqCmp.eq_of_compare equal)
      have foreign : labelled (labels, state) ≠ some l := fun same => here (Option.some.inj same)
      rw [filed_append_other foreign, if_neg apart]
      exact watches.states l

theorem poll (watches : Watches g calls) (d : Duration) (failed : Bool) :
    Watches { g with
      polls := g.polls + 1
      lastPollDuration := .ofNanos d.nanos
      pollFailures := if failed then g.pollFailures + 1 else g.pollFailures } (calls ++ [.recordPoll d failed]) := by
  have more : OpenRazer.polls (calls ++ [.recordPoll d failed]) = OpenRazer.polls calls ++ [(d, failed)] :=
    polls_snoc calls (.recordPoll d failed)
  refine ⟨?_, ?_, ?_, fun l => ?_⟩
  · rw [more, watches.polls, List.length_append, UInt64.ofNat_add]
    rfl
  · rw [failedPolls, more, watches.failures, failedPolls, List.filter_append, List.length_append]
    cases failed with
    | true => exact (UInt64.ofNat_add _ _).symm
    | false => rfl
  · rw [more, List.getLast?_concat]
    rfl
  · rw [lastState_same rfl]
    exact watches.states l

theorem apply {m m' : Metrics} (watches : Watches m.inner calls) (applied : m.apply call = some m') :
    Watches m'.inner (calls ++ [call]) := by
  cases call with
  | recordTransaction labels command attempts duration error =>
    simp only [Metrics.apply, Metrics.recordTransaction, Option.bind_eq_bind, Option.bind_eq_some_iff, Option.pure_def,
      Option.some.injEq] at applied
    obtain ⟨histogram, _, rfl⟩ := applied
    exact watches.silent rfl rfl ⟨rfl, rfl, rfl, rfl⟩
  | setDeviceState labels state =>
    obtain rfl := Option.some.inj applied
    exact watches.set labels state
  | recordPoll duration failed =>
    obtain rfl := Option.some.inj applied
    exact watches.poll duration failed

theorem applied {m m' : Metrics} (watches : Watches m.inner calls) {more : List Call}
    (ran : more.foldlM Metrics.apply m = some m') : Watches m'.inner (calls ++ more) := by
  induction more generalizing m calls with
  | nil =>
    obtain rfl := Option.some.inj ran
    rwa [List.append_nil]
  | cons call more ih =>
    rw [List.foldlM_cons, Option.bind_eq_bind, Option.bind_eq_some_iff] at ran
    obtain ⟨m₁, here, later⟩ := ran
    have whole := ih (watches.apply here) later
    rwa [List.append_assoc] at whole

theorem after {exposeSerial : Bool} {m : Metrics} (ran : Metrics.after exposeSerial calls = some m) :
    Watches m.inner calls := by
  have opened : Watches (Metrics.new exposeSerial).inner [] := new
  exact opened.applied ran

end Watches

/-- A sample of a metric that only some series have comes from one of those. -/
theorem Metrics.sample_of_series {m : Metrics} {elapsed : Duration} {a : Sample} (member : a ∈ m.samples elapsed)
    (named : a.name ∈ Series.NAMES) : ∃ s ∈ m.series, s.sample m = some a ∧ a.name = s.name := by
  obtain ⟨_, _, apart⟩ := List.nodup_append.mp Series.names_apart
  obtain ⟨_, _, opened⟩ := List.nodup_append.mp (List.nodup_append.mp Series.names_apart).1
  simp only [samples, List.mem_append] at member
  rcases member with (opening | series) | closing
  · have name : a.name ∈ OPENING := by
      rw [← opening_names elapsed]
      exact List.mem_map_of_mem opening
    exact absurd rfl (opened a.name name a.name named)
  · obtain ⟨s, listed, found⟩ := List.mem_filterMap.mp series
    obtain ⟨_, origin⟩ := Series.origin found
    exact ⟨s, listed, found, origin.name⟩
  · have name : a.name ∈ CLOSING := by
      rw [← closing_names m.inner]
      exact List.mem_map_of_mem closing
    exact absurd rfl (apart a.name (List.mem_append_right _ named) a.name name)

theorem Metrics.mem_samples {m : Metrics} {s : Series} {a : Sample} (found : s.sample m = some a) (elapsed : Duration) :
    a ∈ m.samples elapsed := by
  have listed : s ∈ m.series := (m.mem_series s).mpr (Option.isSome_of_eq_some found)
  exact List.mem_append_left _ (List.mem_append_right _ (List.mem_filterMap.mpr ⟨s, listed, found⟩))

/-- The gauges of the devices in a text. -/
def Sample.IsGauge (a : Sample) : Prop :=
  a.name ∈ DeviceFamily.all.map DeviceFamily.name

/-- What the gauges say is the state that was recorded last for each device: no
value is left from an earlier state, none is missing, and no device without a state has one. -/
theorem gauges_are_fresh (exposeSerial : Bool) (calls : List Call) :
    ∃ m, Metrics.after exposeSerial calls = some m ∧ m.Shown ∧ ∀ elapsed a, a.IsGauge →
      (a ∈ m.samples elapsed ↔ ∃ (family : DeviceFamily) (l : DeviceLabels) (s : DeviceState),
        lastState l calls = some s ∧ family.sample exposeSerial l s = some a) := by
  obtain ⟨m, after, records⟩ := Records.after exposeSerial calls
  have exposes : m.exposeSerial = exposeSerial := Metrics.foldlM_exposeSerial after
  have states := (Watches.after after).states
  refine ⟨m, after, Metrics.shown records.slots, fun elapsed a gauge => ?_⟩
  have named : a.name ∈ Series.NAMES := List.mem_append_left _ (List.mem_append_left _ gauge)
  constructor
  · intro member
    obtain ⟨series, _, found, name⟩ := Metrics.sample_of_series member named
    have known := List.nodup_append.mp (List.nodup_append.mp (List.nodup_append.mp Series.names_apart).1).2.1
    obtain ⟨known, _, rows⟩ := known
    obtain ⟨_, _, counters⟩ := List.nodup_append.mp known
    cases series with
    | device family l =>
      obtain ⟨s, stored, said⟩ := Option.bind_eq_some_iff.mp found
      exact ⟨family, l, s, states l ▸ stored, exposes ▸ said⟩
    | counter family key => exact absurd name (counters _ gauge _ family.name_mem)
    | latency key row => exact absurd name (rows _ (List.mem_append_left _ gauge) _ row.name_mem)
  · rintro ⟨family, l, s, stored, said⟩
    refine Metrics.mem_samples (s := .device family l) ?_ elapsed
    rw [Series.sample, states, stored, Option.bind_some, exposes]
    exact said

/-- Two readings of a counter: the second is not below the first. -/
def Sample.Grown (a a' : Sample) : Prop :=
  a'.name = a.name ∧ a'.labels = a.labels ∧ ∃ n n', a.value = Nat.repr n ∧ a'.value = Nat.repr n' ∧ n ≤ n'

/-- Every counter in the text of the one is in that of the other, and has not fallen. -/
def NeverFalls (m m' : Metrics) : Prop :=
  m.Shown ∧ m'.Shown ∧ ∀ elapsed elapsed' a, a ∈ m.samples elapsed → a.name ∈ COUNTERS → ∃ a' ∈ m'.samples elapsed', a.Grown a'

section Growth

variable {g g' : Inner} {history more : List Transaction} {key : SeriesKey}

theorem counter_grows (records : Records g history) (records' : Records g' (history ++ more)) (fits : Fits (history ++ more))
    (family : CounterFamily) {n : UInt64} (stored : (family.entries g)[key]? = some n) :
    ∃ n', (family.entries g')[key]? = some n' ∧ n.toNat ≤ n'.toNat := by
  cases family with
  | transactions =>
    have few := fits.transactions key
    rw [about, filed_append] at few
    refine ⟨_, records.transactions.grows records'.transactions stored, ?_⟩
    rw [records.transactions.of_mem stored]
    exact UInt64.le_iff_toNat_le.mp (Histogram.ofNat_le_ofNat (by simp) few)
  | attempts =>
    have few := fits.attempts key
    rw [about, filed_append] at few
    refine ⟨_, records.attempts.grows records'.attempts stored, ?_⟩
    rw [records.attempts.of_mem stored]
    exact UInt64.le_iff_toNat_le.mp (Histogram.ofNat_le_ofNat (by simp) few)
  | errors =>
    have few := fits.errors key
    rw [failures, filed_append] at few
    refine ⟨_, records.errors.grows records'.errors stored, ?_⟩
    rw [records.errors.of_mem stored]
    exact UInt64.le_iff_toNat_le.mp (Histogram.ofNat_le_ofNat (by simp) few)

/-- The rows of a histogram but its sum, which is no counter. -/
theorem row_grows (records : Records g history) (records' : Records g' (history ++ more)) (fits : Fits (history ++ more))
    {row : Row} (counts : row ≠ .sum) {h : Histogram} (stored : g.latency[key]? = some h) :
    ∃ h' n n', g'.latency[key]? = some h' ∧ row.read h = some (Nat.repr n) ∧ row.read h' = some (Nat.repr n') ∧ n ≤ n' := by
  have few := fits.transactions key
  rw [about, filed_append] at few
  obtain rfl := records.latency.of_mem stored
  have later := records.latency.grows records'.latency stored
  rw [List.map_append] at later
  have longer (a b : List Binary64) (fits : (a ++ b).length < 2 ^ 64) (p : Binary64 → Bool) :
      (UInt64.ofNat (a.countP p)).toNat ≤ (UInt64.ofNat ((a ++ b).countP p)).toNat := by
    refine UInt64.le_iff_toNat_le.mp (Histogram.ofNat_le_ofNat ?_ (lt_of_le_of_lt List.countP_le_length fits))
    rw [List.countP_append]
    exact Nat.le_add_right ..
  have total (a b : List Binary64) (fits : (a ++ b).length < 2 ^ 64) :
      (UInt64.ofNat a.length).toNat ≤ (UInt64.ofNat (a ++ b).length).toNat :=
    UInt64.le_iff_toNat_le.mp (Histogram.ofNat_le_ofNat (by simp) fits)
  rw [← List.length_map Transaction.seconds, List.map_append] at few
  cases row with
  | bucket i =>
    have bound : LATENCY_BUCKETS[i.val]? = some LATENCY_BUCKETS[i] := List.getElem?_eq_getElem i.isLt
    refine ⟨_, _, _, later, ?_, ?_, longer _ _ few (· ≤ LATENCY_BUCKETS[i].value)⟩
    · rw [Row.read, Fin.getElem?_fin, Histogram.getElem?_of bound]
      rfl
    · rw [Row.read, Fin.getElem?_fin, Histogram.getElem?_of bound]
      rfl
  | inf => exact ⟨_, _, _, later, rfl, rfl, total _ _ few⟩
  | sum => exact absurd rfl counts
  | count => exact ⟨_, _, _, later, rfl, rfl, total _ _ few⟩

end Growth

/-- A name that counts is a counter's, a histogram row's, or one of the two about polls. -/
theorem series_of_counter {m : Metrics} {elapsed : Duration} {a : Sample} (member : a ∈ m.samples elapsed)
    (counter : a.name ∈ COUNTERS) :
    (∃ family key n, (CounterFamily.entries m.inner family)[key]? = some n ∧ a = family.sample key n) ∨
    (∃ (key : SeriesKey) (row : Row) (h : Histogram), row ≠ .sum ∧ m.inner.latency[key]? = some h ∧ row.sample key h = some a) ∨
    a = ⟨"razer_polls_total", [], Nat.repr m.inner.polls.toNat⟩ ∨
    a = ⟨"razer_poll_failures_total", [], Nat.repr m.inner.pollFailures.toNat⟩ := by
  simp only [Metrics.samples, List.mem_append] at member
  rcases member with (opening | series) | closing
  · have name : a.name ∈ Metrics.OPENING := by
      rw [← Metrics.opening_names elapsed]
      exact List.mem_map_of_mem opening
    have apart : ∀ name ∈ Metrics.OPENING, name ∉ COUNTERS := by decide
    exact absurd counter (apart a.name name)
  · obtain ⟨s, _, found⟩ := List.mem_filterMap.mp series
    obtain ⟨_, origin⟩ := Series.origin found
    rw [origin.name] at counter
    cases s with
    | device family l =>
      have apart : ∀ family : DeviceFamily, family.name ∉ COUNTERS := by
        intro family
        cases family <;> decide
      exact absurd counter (apart family)
    | counter family key =>
      obtain ⟨n, stored, same⟩ := Option.map_eq_some_iff.mp found
      exact Or.inl ⟨family, key, n, stored, same.symm⟩
    | latency key row =>
      obtain ⟨h, stored, said⟩ := Option.bind_eq_some_iff.mp found
      have counts : row ≠ .sum := by
        rintro rfl
        exact absurd counter (show "razer_transaction_duration_seconds_sum" ∉ COUNTERS by decide)
      exact Or.inr (Or.inl ⟨key, row, h, counts, stored, said⟩)
  · simp only [Metrics.closing, List.mem_cons, List.not_mem_nil, or_false] at closing
    rcases closing with rfl | rfl | rfl
    · exact Or.inr (Or.inr (Or.inl rfl))
    · exact Or.inr (Or.inr (Or.inr rfl))
    · exact absurd counter (show "razer_poll_duration_seconds" ∉ COUNTERS by decide)

theorem neverFalls_append (exposeSerial : Bool) (calls more : List Call) (fits : Fits (transactions (calls ++ more)))
    (polled : (polls (calls ++ more)).length < 2 ^ 64) :
    ∃ m m', Metrics.after exposeSerial calls = some m ∧ Metrics.after exposeSerial (calls ++ more) = some m' ∧ NeverFalls m m' := by
  obtain ⟨m, after, records⟩ := Records.after exposeSerial calls
  obtain ⟨m', after', records'⟩ := Records.after exposeSerial (calls ++ more)
  have watches := Watches.after after
  have watches' := Watches.after after'
  have parts : transactions (calls ++ more) = transactions calls ++ transactions more := List.filterMap_append
  have polls_parts : polls (calls ++ more) = polls calls ++ polls more := List.filterMap_append
  rw [parts] at fits records'
  rw [polls_parts] at polled
  refine ⟨m, m', after, after', Metrics.shown records.slots, Metrics.shown records'.slots, ?_⟩
  intro elapsed elapsed' a member counter
  rcases series_of_counter member counter with ⟨family, key, n, stored, rfl⟩ | ⟨key, row, h, counts, stored, said⟩ | rfl | rfl
  · obtain ⟨n', stored', grown⟩ := counter_grows records records' fits family stored
    have found : Series.sample m' (.counter family key) = some (family.sample key n') := by
      rw [Series.sample, stored', Option.map_some]
    exact ⟨_, Metrics.mem_samples found elapsed', rfl, rfl, _, _, rfl, rfl, grown⟩
  · obtain ⟨h', n, n', stored', read, read', grown⟩ := row_grows records records' fits counts stored
    rw [Row.sample, read, Option.map_some] at said
    obtain rfl := Option.some.inj said
    have found : Series.sample m' (.latency key row) =
        some ⟨row.name, key.1.pairs ++ ("command", key.2) :: row.le, Nat.repr n'⟩ := by
      rw [Series.sample, stored', Option.bind_some, Row.sample, read', Option.map_some]
    exact ⟨_, Metrics.mem_samples found elapsed', rfl, rfl, _, _, rfl, rfl, grown⟩
  · refine ⟨⟨"razer_polls_total", [], Nat.repr m'.inner.polls.toNat⟩, List.mem_append_right _ List.mem_cons_self, rfl, rfl, _, _, rfl,
      rfl, ?_⟩
    rw [watches.polls, watches'.polls, polls_parts]
    exact UInt64.le_iff_toNat_le.mp (Histogram.ofNat_le_ofNat (by simp) polled)
  · refine ⟨⟨"razer_poll_failures_total", [], Nat.repr m'.inner.pollFailures.toNat⟩,
      List.mem_append_right _ (List.mem_cons_of_mem _ List.mem_cons_self), rfl, rfl, _, _, rfl, rfl, ?_⟩
    rw [watches.failures, watches'.failures, failedPolls, failedPolls, polls_parts, List.filter_append]
    have few : ((polls calls).filter Prod.snd ++ (polls more).filter Prod.snd).length < 2 ^ 64 := by
      rw [← List.filter_append]
      exact lt_of_le_of_lt (List.length_filter_le ..) polled
    exact UInt64.le_iff_toNat_le.mp (Histogram.ofNat_le_ofNat (by simp) few)

/-- What fits as a whole fits in part. -/
theorem Fits.of_append {history more : List Transaction} (fits : Fits (history ++ more)) : Fits history where
  transactions key := by
    have few := fits.transactions key
    rw [about, filed_append, List.length_append] at few
    exact lt_of_le_of_lt (Nat.le_add_right ..) few
  attempts key := by
    have few := fits.attempts key
    rw [about, filed_append, List.map_append, List.sum_append] at few
    exact lt_of_le_of_lt (Nat.le_add_right ..) few
  errors key := by
    have few := fits.errors key
    rw [failures, filed_append, List.length_append] at few
    exact lt_of_le_of_lt (Nat.le_add_right ..) few

/-- Later visitors see what earlier ones saw, and perhaps more. -/
theorem visitors_ordered (before : List Call) (happenings : List Happening) :
    (visitors before happenings).Pairwise (fun first second => first.calls <+: second.calls) ∧
      ∀ visitor ∈ visitors before happenings, before <+: visitor.calls ∧ visitor.calls <+: before ++ recorded happenings := by
  induction happenings generalizing before with
  | nil => exact ⟨.nil, nofun⟩
  | cons happening rest ih =>
    obtain ⟨ordered, within⟩ := ih (before ++ happening.calls)
    have whole : before ++ recorded (happening :: rest) = before ++ happening.calls ++ recorded rest := by
      simp [recorded]
    have later : ∀ visitor ∈ visitors (before ++ happening.calls) rest,
        before <+: visitor.calls ∧ visitor.calls <+: before ++ recorded (happening :: rest) := by
      intro visitor member
      obtain ⟨lower, upper⟩ := within visitor member
      exact ⟨(List.prefix_append ..).trans lower, whole ▸ upper⟩
    cases happening with
    | call c => exact ⟨ordered, later⟩
    | failed error => exact ⟨ordered, later⟩
    | accepted stream meanwhile elapsed =>
      refine ⟨List.pairwise_cons.mpr ⟨fun visitor member => (within visitor member).1, ordered⟩, ?_⟩
      refine List.forall_mem_cons.mpr ⟨⟨List.prefix_append .., ?_⟩, later⟩
      rw [whole]
      exact List.prefix_append ..

/-- From one scrape to a later one no counter falls and none disappears,
whoever records what in between and whoever else connects. -/
theorem counters_never_fall (exposeSerial : Bool) (happenings : List Happening)
    (fits : Fits (transactions (recorded happenings))) (polled : (polls (recorded happenings)).length < 2 ^ 64) :
    (visitors [] happenings).Pairwise fun first second => ∃ m m', Metrics.after exposeSerial first.calls = some m ∧
      Metrics.after exposeSerial second.calls = some m' ∧ NeverFalls m m' := by
  obtain ⟨ordered, within⟩ := visitors_ordered [] happenings
  refine ordered.imp_of_mem ?_
  rintro first ⟨stream, calls, elapsed⟩ _ listed ⟨more, rfl⟩
  obtain ⟨_, rest, whole⟩ := within _ listed
  rw [List.nil_append] at whole
  rw [← whole] at fits polled
  rw [transactions, List.filterMap_append] at fits
  rw [polls, List.filterMap_append, List.length_append] at polled
  exact neverFalls_append exposeSerial first.calls more fits.of_append (lt_of_le_of_lt (Nat.le_add_right ..) polled)

def scraper : TcpStream where
  setReadTimeout := true
  setWriteTimeout := true
  tryClone := true
  source i := ((Utf8.bytes "GET /metrics HTTP/1.1\r\n\r\n")[i]?.map .byte).getD .closed

/-- A transaction and a poll between two visitors. -/
theorem counters_never_fall_two_visitors :
    (visitors [] [.accepted scraper [] ⟨0⟩, .call (.recordTransaction ⟨"mouse", "0084"⟩ "firmware" 3 ⟨2000000⟩ (some "timeout")),
        .failed "too many open files", .accepted scraper [.recordPoll ⟨5⟩ true] ⟨1⟩]).Pairwise fun first second =>
      ∃ m m', Metrics.after false first.calls = some m ∧ Metrics.after false second.calls = some m' ∧ NeverFalls m m' :=
  counters_never_fall false _ (Fits.of_total (by decide) (by decide)) (by decide)

end OpenRazer
