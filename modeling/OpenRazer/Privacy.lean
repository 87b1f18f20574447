import OpenRazer.Scrape

namespace OpenRazer

def DeviceState.eraseSerial (s : DeviceState) : DeviceState :=
  { s with serial := none }

/-- The call without the serial it may carry. -/
def Call.eraseSerial : Call → Call
  | .setDeviceState labels state => .setDeviceState labels state.eraseSerial
  | .recordTransaction labels command attempts duration error => .recordTransaction labels command attempts duration error
  | .recordPoll duration failed => .recordPoll duration failed

namespace Metrics

/-- The registry as it would be without serials. -/
def eraseSerials (m : Metrics) : Metrics :=
  { m with inner := { m.inner with devices := m.inner.devices.map fun _ s => s.eraseSerial } }

theorem insert_eraseSerial (devices : Std.ExtTreeMap DeviceLabels DeviceState) (l : DeviceLabels) (s : DeviceState) :
    (devices.insert l s).map (fun _ s => s.eraseSerial) = (devices.map fun _ s => s.eraseSerial).insert l s.eraseSerial := by
  refine Std.ExtTreeMap.ext_getElem? fun k => ?_
  rw [Std.ExtTreeMap.getElem?_map, Std.ExtTreeMap.getElem?_insert, Std.ExtTreeMap.getElem?_insert, Std.ExtTreeMap.getElem?_map]
  split <;> rfl

/-- Calls keep serials to themselves: erased before or after, the registry is the same. -/
theorem apply_eraseSerials (m : Metrics) (call : Call) :
    (m.apply call).map eraseSerials = m.eraseSerials.apply call.eraseSerial := by
  cases call with
  | recordTransaction labels command attempts duration error =>
    simp only [apply, Call.eraseSerial, recordTransaction, eraseSerials, Option.bind_eq_bind, Option.map_bind]
    rfl
  | setDeviceState labels state =>
    simp only [apply, Call.eraseSerial, setDeviceState, eraseSerials, Option.map_some, insert_eraseSerial]
  | recordPoll duration failed => rfl

theorem foldlM_eraseSerials (m : Metrics) (calls : List Call) :
    (calls.foldlM apply m).map eraseSerials = (calls.map Call.eraseSerial).foldlM apply m.eraseSerials := by
  induction calls generalizing m with
  | nil => rfl
  | cons call calls ih =>
    rw [List.foldlM_cons, List.map_cons, List.foldlM_cons, ← apply_eraseSerials]
    cases m.apply call with
    | none => rfl
    | some next => exact ih next

theorem new_eraseSerials (exposeSerial : Bool) : (Metrics.new exposeSerial).eraseSerials = .new exposeSerial := by
  have none : (∅ : Std.ExtTreeMap DeviceLabels DeviceState).map (fun _ s => s.eraseSerial) = ∅ :=
    Std.ExtTreeMap.map_eq_empty_iff.mpr rfl
  rw [eraseSerials, Metrics.new, none]

theorem after_eraseSerials (exposeSerial : Bool) (calls : List Call) :
    (after exposeSerial calls).map eraseSerials = after exposeSerial (calls.map Call.eraseSerial) := by
  rw [after, foldlM_eraseSerials, new_eraseSerials, after]

/-- A gauge that is not told the serial does not see it. -/
theorem gauges_eraseSerials (name : String) (value : DeviceState → Option String) (m : Metrics)
    (blind : ∀ s, value s.eraseSerial = value s) : gauges name value m.eraseSerials.inner = gauges name value m.inner := by
  simp only [gauges, eraseSerials, Std.ExtTreeMap.toList_map, List.filterMap_map, Function.comp_def, blind]

theorem kernelDriver_eraseSerials (m : Metrics) : kernelDriver m.eraseSerials.inner = kernelDriver m.inner := by
  simp only [kernelDriver, eraseSerials, Std.ExtTreeMap.toList_map, List.filterMap_map, Function.comp_def,
    DeviceState.eraseSerial]

theorem deviceInfo_eraseSerials {m : Metrics} (unexposed : m.exposeSerial = false) :
    deviceInfo m.eraseSerials.exposeSerial m.eraseSerials.inner = deviceInfo m.exposeSerial m.inner := by
  simp only [deviceInfo, eraseSerials, Std.ExtTreeMap.toList_map, List.map_map, Function.comp_def,
    DeviceState.eraseSerial, unexposed]

/-- Every family of samples is the same without the serials. -/
theorem lines_eraseSerials {m : Metrics} (unexposed : m.exposeSerial = false) (elapsed : Duration) :
    m.eraseSerials.lines elapsed = m.lines elapsed := by
  rw [lines, lines, deviceInfo_eraseSerials unexposed, kernelDriver_eraseSerials, gauges_eraseSerials, gauges_eraseSerials,
    gauges_eraseSerials, gauges_eraseSerials, gauges_eraseSerials]
  · simp only [eraseSerials]
  all_goals exact fun _ => rfl

theorem render_eraseSerials {m : Metrics} (unexposed : m.exposeSerial = false) (elapsed : Duration) :
    m.eraseSerials.render elapsed = m.render elapsed := by
  rw [render, render, lines_eraseSerials unexposed]

theorem apply_exposeSerial {m m' : Metrics} {call : Call} (applied : m.apply call = some m') :
    m'.exposeSerial = m.exposeSerial := by
  cases call with
  | recordTransaction labels command attempts duration error =>
    obtain ⟨histogram, _, same⟩ := Option.bind_eq_some_iff.mp applied
    cases same
    rfl
  | setDeviceState labels state =>
    cases applied
    rfl
  | recordPoll duration failed =>
    cases applied
    rfl

theorem foldlM_exposeSerial {m m' : Metrics} {calls : List Call} (ran : calls.foldlM apply m = some m') :
    m'.exposeSerial = m.exposeSerial := by
  induction calls generalizing m with
  | nil =>
    cases ran
    rfl
  | cons call calls ih =>
    obtain ⟨next, applied, rest⟩ := Option.bind_eq_some_iff.mp ran
    exact (ih rest).trans (apply_exposeSerial applied)

/-- The text is a function of the calls without their serials. -/
theorem render_after {calls : List Call} {m : Metrics} (after : Metrics.after false calls = some m) (elapsed : Duration) :
    (Metrics.after false (calls.map Call.eraseSerial)).bind (render · elapsed) = m.render elapsed := by
  rw [← after_eraseSerials, after, Option.map_some, Option.bind_some]
  exact render_eraseSerials (foldlM_exposeSerial after) elapsed

end Metrics

/-- Two histories that differ in nothing but serials look the same after every
prefix, as long as serials are not exposed. -/
theorem serials_are_private (calls calls' : List Call) (same : calls.map Call.eraseSerial = calls'.map Call.eraseSerial)
    (n : Nat) (elapsed : Duration) :
    ∃ m m' text, Metrics.after false (calls.take n) = some m ∧ Metrics.after false (calls'.take n) = some m' ∧
      m.render elapsed = some text ∧ m'.render elapsed = some text := by
  have prefixes : (calls.take n).map Call.eraseSerial = (calls'.take n).map Call.eraseSerial := by
    rw [List.map_take, List.map_take, same]
  obtain ⟨m, after, records⟩ := Records.after false (calls.take n)
  obtain ⟨m', after', _⟩ := Records.after false (calls'.take n)
  obtain ⟨text, written⟩ := Metrics.render_some records.slots elapsed
  have one := Metrics.render_after after elapsed
  have other := Metrics.render_after after' elapsed
  rw [prefixes] at one
  exact ⟨m, m', text, after, after', written, other.symm.trans (one.trans written)⟩

/-- Two mice of one model, told apart by their serials only. -/
theorem serials_are_private_one_poll :
    ∃ m m' text,
      Metrics.after false [.setDeviceState ⟨"mouse", "0084"⟩ { present := true, serial := some "PM1" }] = some m ∧
      Metrics.after false [.setDeviceState ⟨"mouse", "0084"⟩ { present := true, serial := some "PM2" }] = some m' ∧
      m.render ⟨0⟩ = some text ∧ m'.render ⟨0⟩ = some text :=
  serials_are_private [.setDeviceState ⟨"mouse", "0084"⟩ { present := true, serial := some "PM1" }]
    [.setDeviceState ⟨"mouse", "0084"⟩ { present := true, serial := some "PM2" }] rfl 1 ⟨0⟩

end OpenRazer
