import OpenRazer.Library.Groups
import OpenRazer.Metrics

namespace OpenRazer

/-- What `record_transaction` is told. -/
structure Transaction where
  labels : DeviceLabels
  command : String
  attempts : UInt32
  duration : Duration
  error : Option String
deriving DecidableEq

namespace Transaction

def key (t : Transaction) : SeriesKey :=
  (t.labels, t.command)

def errorKey (t : Transaction) : Option SeriesKey :=
  t.error.map fun reason => (t.labels, reason)

/-- The value that the histogram observes. -/
def seconds (t : Transaction) : Binary64 :=
  .ofNanos t.duration.nanos

end Transaction

def Call.transaction : Call → Option Transaction
  | .recordTransaction labels command attempts duration error => some ⟨labels, command, attempts, duration, error⟩
  | .setDeviceState _ _ => none
  | .recordPoll _ _ => none

/-- The transactions of a history; what else it did is left out. -/
def transactions (calls : List Call) : List Transaction :=
  calls.filterMap Call.transaction

/-- The transactions that count towards a key. -/
def about (key : SeriesKey) (history : List Transaction) : List Transaction :=
  Groups.filed (fun t => some t.key) key history

def failures (key : SeriesKey) (history : List Transaction) : List Transaction :=
  Groups.filed Transaction.errorKey key history

namespace Histogram

/-- One observation in every bucket it fits. -/
def tally (v : Binary64) (n : UInt64) (b : Bound) : UInt64 :=
  if v ≤ b.value then n + 1 else n

theorem count_slots (v : Binary64) (bounds : List Bound) (before slots : List UInt64) (each : slots.length = bounds.length) :
    count v bounds before.length (before ++ slots) = some (before ++ List.zipWith (tally v) slots bounds) := by
  induction bounds generalizing before slots with
  | nil =>
    obtain rfl := List.length_eq_zero_iff.mp each
    rfl
  | cons b bounds ih =>
    cases slots with
    | nil => cases each
    | cons n slots =>
      have rest := ih (before ++ [tally v n b]) slots (Nat.succ.inj each)
      rw [List.length_append, List.length_singleton, List.append_assoc, List.append_assoc, List.singleton_append,
        List.singleton_append] at rest
      unfold count
      by_cases fits : v ≤ b.value
      · have slot : (before ++ n :: slots)[before.length]? = some n := by
          rw [List.getElem?_append_right le_rfl, Nat.sub_self, List.getElem?_cons_zero]
        have stored : (before ++ n :: slots).set before.length (n + 1) = before ++ (n + 1) :: slots := by
          rw [List.set_append_right _ _ le_rfl, Nat.sub_self, List.set_cons_zero]
        rw [tally, if_pos fits] at rest
        simp only [if_pos fits, slot, Option.bind_eq_bind, Option.bind_some, stored, rest, List.zipWith_cons_cons, tally]
      · rw [tally, if_neg fits] at rest
        simp only [if_neg fits, rest, List.zipWith_cons_cons, tally]

/-- The histogram of the values observed, one after another. -/
def of (values : List Binary64) : Histogram where
  counts := LATENCY_BUCKETS.map fun b => .ofNat (values.countP (· ≤ b.value))
  sum := values.foldl .add 0
  total := .ofNat values.length

/-- An observation finds a slot for every bound. -/
theorem observe_of (values : List Binary64) (v : Binary64) : (of values).observe v = some (of (values ++ [v])) := by
  have counted := count_slots v LATENCY_BUCKETS [] (of values).counts (List.length_map _)
  have slots : List.zipWith (tally v) (of values).counts LATENCY_BUCKETS = (of (values ++ [v])).counts := by
    simp only [of, List.zipWith_map_left, List.zipWith_self]
    refine List.map_congr_left fun b _ => ?_
    rw [tally, List.countP_append, List.countP_singleton]
    split
    · rename_i fits
      rw [if_pos (by simpa using fits), UInt64.ofNat_add]
      rfl
    · rename_i misses
      rw [if_neg (by simpa using misses), Nat.add_zero]
  rw [List.length_nil, List.nil_append, List.nil_append, slots] at counted
  rw [observe, counted]
  simp only [Option.bind_eq_bind, Option.bind_some, Option.pure_def, of, List.foldl_append, List.foldl_cons, List.foldl_nil,
    List.length_append, List.length_singleton, UInt64.ofNat_add]
  rfl

end Histogram

open Groups

/-- The four maps of the registry, each a summary of the history. -/
structure Records (g : Inner) (history : List Transaction) : Prop where
  transactions : Summarizes (fun t => some t.key) (fun ts => .ofNat ts.length) g.transactions history
  attempts : Summarizes (fun t => some t.key) (fun ts => .ofNat (ts.map (·.attempts.toNat)).sum) g.attempts history
  latency : Summarizes (fun t => some t.key) (fun ts => .of (ts.map Transaction.seconds)) g.latency history
  errors : Summarizes Transaction.errorKey (fun ts => .ofNat ts.length) g.errors history

theorem bump_summarizes {keyOf : Transaction → Option SeriesKey} {summary : List Transaction → UInt64}
    {m : Std.ExtTreeMap SeriesKey UInt64} {history : List Transaction} {t : Transaction} {key : SeriesKey} {n : UInt64}
    (same : Summarizes keyOf summary m history) (own : keyOf t = some key) (start : summary [] = 0)
    (step : ∀ ts, summary (ts ++ [t]) = summary ts + n) :
    Summarizes keyOf summary (Metrics.bump m key n) (history ++ [t]) := by
  have next : some (m[key]?.getD 0 + n) = some (summary (filed keyOf key history ++ [t])) := by
    rw [← start, same.getD, step]
  exact same.alter own next

/-- What a transaction adds to the error counters. -/
def withError (errors : Std.ExtTreeMap SeriesKey UInt64) (labels : DeviceLabels) (error : Option String) :
    Std.ExtTreeMap SeriesKey UInt64 :=
  match error with
  | some reason => Metrics.bump errors (labels, reason) 1
  | none => errors

/-- What is left of recording a transaction once the histogram took the observation. -/
theorem Metrics.recordTransaction_eq {m : Metrics} {t : Transaction} {histogram : Histogram}
    (observed : (m.inner.latency[t.key]?.getD .new).observe t.seconds = some histogram) :
    m.recordTransaction t.labels t.command t.attempts t.duration t.error = some { m with inner := { m.inner with
      transactions := bump m.inner.transactions t.key 1
      attempts := bump m.inner.attempts t.key t.attempts.toUInt64
      latency := m.inner.latency.insert t.key histogram
      errors := withError m.inner.errors t.labels t.error } } :=
  congrArg (Option.bind · _) observed

namespace Records

theorem new : Records {} [] :=
  ⟨.empty, .empty, .empty, .empty⟩

variable {g : Inner} {history : List Transaction}

/-- Recording a transaction appends it to the history, in all four maps. -/
theorem record {m : Metrics} (records : Records m.inner history) (t : Transaction) :
    ∃ m', m.recordTransaction t.labels t.command t.attempts t.duration t.error = some m' ∧
      Records m'.inner (history ++ [t]) := by
  have found : m.inner.latency[t.key]?.getD .new = .of ((about t.key history).map Transaction.seconds) :=
    records.latency.getD t.key
  have observed := Histogram.observe_of ((about t.key history).map Transaction.seconds) t.seconds
  rw [← found] at observed
  have one : ∀ ts : List Transaction, UInt64.ofNat (ts ++ [t]).length = .ofNat ts.length + 1 := by
    intro ts
    rw [List.length_append, List.length_singleton, UInt64.ofNat_add]
    rfl
  have more : ∀ ts : List Transaction, UInt64.ofNat ((ts ++ [t]).map (·.attempts.toNat)).sum =
      .ofNat (ts.map (·.attempts.toNat)).sum + t.attempts.toUInt64 := by
    intro ts
    rw [List.map_append, List.sum_append, UInt64.ofNat_add, List.map_singleton, List.sum_singleton, UInt64.ofNat_uInt32ToNat]
  have latency : Histogram.of ((about t.key history).map Transaction.seconds ++ [t.seconds]) =
      .of ((about t.key history ++ [t]).map Transaction.seconds) := by
    rw [List.map_append, List.map_singleton]
  have errors : Summarizes Transaction.errorKey (fun ts => .ofNat ts.length) (withError m.inner.errors t.labels t.error)
      (history ++ [t]) := by
    cases failed : t.error with
    | none => exact records.errors.skip (by rw [Transaction.errorKey, failed, Option.map_none])
    | some reason =>
      have own : t.errorKey = some (t.labels, reason) := by rw [Transaction.errorKey, failed, Option.map_some]
      exact bump_summarizes records.errors own rfl one
  exact ⟨_, Metrics.recordTransaction_eq observed, bump_summarizes records.transactions rfl rfl one,
    bump_summarizes records.attempts rfl rfl more, records.latency.insert rfl latency, errors⟩

/-- Every call keeps the records; only a transaction adds to them. -/
theorem apply {m : Metrics} (records : Records m.inner history) (call : Call) :
    ∃ m', m.apply call = some m' ∧ Records m'.inner (history ++ call.transaction.toList) := by
  cases call with
  | recordTransaction labels command attempts duration error =>
    exact records.record ⟨labels, command, attempts, duration, error⟩
  | setDeviceState labels state =>
    have untouched : Records (m.setDeviceState labels state).inner history := { records with }
    exact ⟨_, rfl, by rwa [Call.transaction, Option.toList_none, List.append_nil]⟩
  | recordPoll duration failed =>
    have untouched : Records (m.recordPoll duration failed).inner history := { records with }
    exact ⟨_, rfl, by rwa [Call.transaction, Option.toList_none, List.append_nil]⟩

theorem applied {m : Metrics} (records : Records m.inner history) (calls : List Call) :
    ∃ m', calls.foldlM Metrics.apply m = some m' ∧ Records m'.inner (history ++ OpenRazer.transactions calls) := by
  induction calls generalizing m history with
  | nil => exact ⟨m, rfl, by rwa [OpenRazer.transactions, List.filterMap_nil, List.append_nil]⟩
  | cons call calls ih =>
    obtain ⟨m₁, applied, records₁⟩ := records.apply call
    obtain ⟨m₂, ran, records₂⟩ := ih records₁
    have whole : (call :: calls).foldlM Metrics.apply m = some m₂ := by
      rw [List.foldlM_cons, applied]
      exact ran
    have parts : OpenRazer.transactions (call :: calls) = call.transaction.toList ++ OpenRazer.transactions calls := by
      cases added : call.transaction <;> simp [OpenRazer.transactions, added]
    rw [parts, ← List.append_assoc]
    exact ⟨m₂, whole, records₂⟩

/-- No history of calls panics, and the maps it leaves are its records. -/
theorem after (exposeSerial : Bool) (calls : List Call) :
    ∃ m, Metrics.after exposeSerial calls = some m ∧ Records m.inner (OpenRazer.transactions calls) := by
  have ran := applied (m := .new exposeSerial) new calls
  rwa [List.nil_append] at ran

end Records

end OpenRazer
