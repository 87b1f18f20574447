import OpenRazer.Scrape
import Mathlib.Algebra.Order.BigOperators.Group.List

namespace OpenRazer

open Groups

/-- Nothing that a history counts reaches the width of a counter. -/
structure Fits (history : List Transaction) : Prop where
  transactions : ∀ key, (about key history).length < 2 ^ 64
  attempts : ∀ key, ((about key history).map (·.attempts.toNat)).sum < 2 ^ 64
  errors : ∀ key, (failures key history).length < 2 ^ 64

/-- It does not where it is short as a whole. -/
theorem Fits.of_total {history : List Transaction} (few : history.length < 2 ^ 64)
    (attempted : (history.map (·.attempts.toNat)).sum < 2 ^ 64) : Fits history where
  transactions _ := lt_of_le_of_lt (List.length_filter_le _ _) few
  attempts _ := lt_of_le_of_lt ((List.filter_sublist.map _).sum_le_sum fun _ _ => Nat.zero_le _) attempted
  errors _ := lt_of_le_of_lt (List.length_filter_le _ _) few

/-- The sum of a device's entries in a counter. -/
def deviceTotal (l : DeviceLabels) (m : Std.ExtTreeMap SeriesKey UInt64) : Nat :=
  ((m.toList.filter fun entry => entry.1.1 = l).map fun entry => entry.2.toNat).sum

/-- Counters and histograms are what the history says, key by key. -/
structure Exact (g : Inner) (history : List Transaction) : Prop where
  transactions : ∀ key, (g.transactions[key]?.getD 0).toNat = (about key history).length
  attempts : ∀ key, (g.attempts[key]?.getD 0).toNat = ((about key history).map (·.attempts.toNat)).sum
  keys : ∀ key, (key ∈ g.transactions ↔ about key history ≠ []) ∧ (key ∈ g.attempts ↔ key ∈ g.transactions) ∧
    (key ∈ g.latency ↔ key ∈ g.transactions)
  slots : ∀ (key : SeriesKey) (h : Histogram), g.latency[key]? = some h → h.counts.length = LATENCY_BUCKETS.length
  totals : ∀ (key : SeriesKey) (h : Histogram), g.latency[key]? = some h → g.transactions[key]? = some h.total
  buckets : ∀ (key : SeriesKey) (h : Histogram), g.latency[key]? = some h → ∀ (i : Nat) (b : Bound) (n : UInt64),
    LATENCY_BUCKETS[i]? = some b → h.counts[i]? = some n → n.toNat = (about key history).countP (·.seconds ≤ b.value)
  cumulative : ∀ (key : SeriesKey) (h : Histogram), g.latency[key]? = some h →
    h.counts.Pairwise (· ≤ ·) ∧ ∀ n ∈ h.counts, n ≤ h.total
  errors : ∀ key, (g.errors[key]?.getD 0).toNat = (failures key history).length
  devices : ∀ l, deviceTotal l g.errors ≤ deviceTotal l g.transactions

/-- The same in two registries: all but the sums of the observations. -/
structure SameCounts (g g' : Inner) : Prop where
  transactions : g.transactions = g'.transactions
  attempts : g.attempts = g'.attempts
  errors : g.errors = g'.errors
  latency : ∀ key : SeriesKey,
    g.latency[key]?.map (fun h => (h.counts, h.total)) = g'.latency[key]?.map fun h => (h.counts, h.total)

theorem ascending : LATENCY_BUCKETS.Pairwise fun b b' => b.value ≤ b'.value := by
  decide +kernel

namespace Histogram

/-- Every slot counts the observations up to its bound. -/
theorem getElem?_of {values : List Binary64} {i : Nat} {b : Bound} (bound : LATENCY_BUCKETS[i]? = some b) :
    (of values).counts[i]? = some (.ofNat (values.countP (· ≤ b.value))) := by
  rw [of, List.getElem?_map, bound, Option.map_some]

theorem ofNat_le_ofNat {a b : Nat} (le : a ≤ b) (fits : b < 2 ^ 64) : UInt64.ofNat a ≤ UInt64.ofNat b := by
  rw [UInt64.le_iff_toNat_le, UInt64.toNat_ofNat_of_lt' (lt_of_le_of_lt le fits), UInt64.toNat_ofNat_of_lt' fits]
  exact le

theorem cumulative {values : List Binary64} (fits : values.length < 2 ^ 64) :
    (of values).counts.Pairwise (· ≤ ·) ∧ ∀ n ∈ (of values).counts, n ≤ (of values).total := by
  refine ⟨?_, ?_⟩
  · rw [of, List.pairwise_map]
    refine ascending.imp fun {b b'} le => ofNat_le_ofNat ?_ (lt_of_le_of_lt List.countP_le_length fits)
    refine List.countP_mono_left fun v _ below => ?_
    exact decide_eq_true (le_trans (of_decide_eq_true below) le)
  · intro n member
    obtain ⟨b, _, rfl⟩ := List.mem_map.mp member
    exact ofNat_le_ofNat List.countP_le_length fits

end Histogram

namespace Records

variable {g g' : Inner} {history other : List Transaction}

/-- A device's errors are among its transactions. -/
theorem device_errors (records : Records g history) (fits : Fits history) (l : DeviceLabels) :
    deviceTotal l g.errors ≤ deviceTotal l g.transactions := by
  have failed : ∀ key n, g.errors[key]? = some n → n.toNat = (failures key history).length := by
    intro key n stored
    rw [records.errors.of_mem stored]
    exact UInt64.toNat_ofNat_of_lt' (fits.errors key)
  have counted : ∀ key n, g.transactions[key]? = some n → n.toNat = (about key history).length := by
    intro key n stored
    rw [records.transactions.of_mem stored]
    exact UInt64.toNat_ofNat_of_lt' (fits.transactions key)
  have errors := records.errors.sum_counts failed fun key => key.1 = l
  have transactions := records.transactions.sum_counts counted fun key => key.1 = l
  rw [deviceTotal, deviceTotal, errors, transactions, List.countP_filterMap, List.countP_filterMap]
  refine List.countP_mono_left fun t _ failed => ?_
  cases reason : t.error with
  | none => simp [Transaction.errorKey, reason] at failed
  | some text => simpa [Transaction.errorKey, Transaction.key, reason] using failed

theorem exact (records : Records g history) (fits : Fits history) : Exact g history where
  transactions key := by
    have read := records.transactions.getD key
    exact (congrArg UInt64.toNat read).trans (UInt64.toNat_ofNat_of_lt' (fits.transactions key))
  attempts key := by
    have read := records.attempts.getD key
    exact (congrArg UInt64.toNat read).trans (UInt64.toNat_ofNat_of_lt' (fits.attempts key))
  keys key := by
    rw [records.transactions.mem_iff, records.attempts.mem_iff, records.latency.mem_iff]
    exact ⟨Iff.rfl, Iff.rfl, Iff.rfl⟩
  slots := records.slots
  totals key h stored := by
    have entry : key ∈ g.latency := by
      rw [Std.ExtTreeMap.mem_iff_isSome_getElem?, stored]
      rfl
    rw [records.transactions key, if_neg (records.latency.mem_iff.mp entry), records.latency.of_mem stored, Histogram.of,
      List.length_map]
  buckets key h stored i b n bound slot := by
    rw [records.latency.of_mem stored, Histogram.getElem?_of bound] at slot
    have few := lt_of_le_of_lt (List.countP_le_length (p := fun t => t.seconds ≤ b.value)) (fits.transactions key)
    rw [← Option.some.inj slot, List.countP_map]
    exact UInt64.toNat_ofNat_of_lt' few
  cumulative key h stored := by
    rw [records.latency.of_mem stored]
    refine Histogram.cumulative ?_
    rw [List.length_map]
    exact fits.transactions key
  errors key := by
    have read := records.errors.getD key
    exact (congrArg UInt64.toNat read).trans (UInt64.toNat_ofNat_of_lt' (fits.errors key))
  devices := records.device_errors fits

theorem sameCounts (records : Records g history) (records' : Records g' other) (reordered : other.Perm history) :
    SameCounts g' g where
  transactions := records.transactions.eq_of_perm records'.transactions reordered fun perm => by rw [perm.length_eq]
  attempts := records.attempts.eq_of_perm records'.attempts reordered fun perm => by rw [(perm.map _).sum_eq]
  errors := records.errors.eq_of_perm records'.errors reordered fun perm => by rw [perm.length_eq]
  latency key := by
    refine records.latency.perm _ records'.latency reordered (fun perm => ?_) key
    have values := perm.map Transaction.seconds
    simp only [Histogram.of, values.countP_eq, values.length_eq]

end Records

/-- No history of calls panics, neither in the calls nor in a render, and the
registry it leaves holds the counts of its transactions, in whatever order they
came and whatever else was called in between. -/
theorem counters_are_the_history (exposeSerial : Bool) (calls : List Call) (fits : Fits (transactions calls)) :
    ∃ m, Metrics.after exposeSerial calls = some m ∧ Exact m.inner (transactions calls) ∧
      (∀ elapsed, (m.render elapsed).isSome) ∧
      ∀ calls', (transactions calls').Perm (transactions calls) →
        ∃ m', Metrics.after exposeSerial calls' = some m' ∧ SameCounts m'.inner m.inner := by
  obtain ⟨m, after, records⟩ := Records.after exposeSerial calls
  refine ⟨m, after, records.exact fits, fun elapsed => ?_, fun calls' reordered => ?_⟩
  · obtain ⟨text, written⟩ := Metrics.render_some records.slots elapsed
    rw [written]
    rfl
  · obtain ⟨m', after', records'⟩ := Records.after exposeSerial calls'
    exact ⟨m', after', records.sameCounts records' reordered⟩

/-- Reading the firmware timed out after three attempts, and took two the next time. -/
theorem counters_are_the_history_two_calls :
    ∃ m, Metrics.after false [.recordTransaction ⟨"mouse", "0084"⟩ "firmware" 3 ⟨2000000⟩ (some "timeout"),
        .recordTransaction ⟨"mouse", "0084"⟩ "firmware" 2 ⟨1000000⟩ none] = some m ∧
      (m.inner.attempts[((⟨"mouse", "0084"⟩, "firmware") : SeriesKey)]?.getD 0).toNat = 5 ∧
      (m.inner.errors[((⟨"mouse", "0084"⟩, "timeout") : SeriesKey)]?.getD 0).toNat = 1 := by
  obtain ⟨m, after, exact, _⟩ := counters_are_the_history false
    [.recordTransaction ⟨"mouse", "0084"⟩ "firmware" 3 ⟨2000000⟩ (some "timeout"),
      .recordTransaction ⟨"mouse", "0084"⟩ "firmware" 2 ⟨1000000⟩ none] (Fits.of_total (by decide) (by decide))
  refine ⟨m, after, ?_, ?_⟩
  · exact (exact.attempts (⟨"mouse", "0084"⟩, "firmware")).trans (by decide)
  · exact (exact.errors (⟨"mouse", "0084"⟩, "timeout")).trans (by decide)

end OpenRazer
