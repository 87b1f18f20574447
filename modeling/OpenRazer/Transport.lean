import OpenRazer.Cmd
import OpenRazer.Devices

universe u

namespace OpenRazer

open Bytes

/-- A hidraw buffer, `[u8; HIDRAW_BUF_LEN]`: the report id and the report. -/
abbrev Frame := Vector UInt8 91

/-- The report id `0x00`, then the encoded report. -/
def hidrawBuf (report : RazerReport) : Frame :=
  let buf : Frame := Vector.replicate 91 0
  let buf := buf.set 0 0x00
  copyFromSlice buf 1 report.toBytes (by decide)

theorem reportId_lt : 0 < 91 := by
  decide

/-- `buf[1..]`. -/
def Frame.report (buf : Frame) : WireReport :=
  Vector.ofFn fun i => buf[1 + i.val]

theorem hidrawBuf_zero (report : RazerReport) : (hidrawBuf report)[0] = 0 := by
  simp [hidrawBuf, getElem_copyFromSlice]

theorem hidrawBuf_succ (report : RazerReport) {i : Nat} (bound : i < 90) :
    (hidrawBuf report)[1 + i] = report.toBytes[i] := by
  unfold hidrawBuf
  exact getElem_copyFromSlice_inside bound

@[simp] theorem report_hidrawBuf (report : RazerReport) : Frame.report (hidrawBuf report) = report.toBytes := by
  refine Vector.ext fun i bound => ?_
  simp only [Frame.report, Vector.getElem_ofFn]
  exact hidrawBuf_succ report bound

/-- The `FeatureTransport` and the `Clock` a session borrows, over one state:
any device at all, which may also react to the time that passes between calls. -/
structure Host (σ : Type u) where
  setFeature : σ → Frame → Except HidError Unit × σ
  getFeature : σ → Frame → Except HidError Nat × Frame × σ
  sleep : σ → Duration → σ

/-- The error contract the transport trait documents. -/
structure Host.Lawful {σ : Type u} (H : Host σ) : Prop where
  setFeature_error : ∀ {w buf e}, (H.setFeature w buf).1 = .error e → ∃ errno, e = .io "HIDIOCSFEATURE" errno
  getFeature_error : ∀ {w buf e}, (H.getFeature w buf).1 = .error e → ∃ errno, e = .io "HIDIOCGFEATURE" errno

/-- What an observer of the transport and the clock sees of one call. -/
inductive Event
  | set (buf : Frame) (result : Except HidError Unit)
  | get (result : Except HidError Nat) (buf : Frame)
  | sleep (d : Duration)
deriving DecidableEq

/-- The same device behind a recorder that notes each call and what came of it. -/
def Host.recorded {σ : Type u} (H : Host σ) : Host (σ × List Event) where
  setFeature w buf :=
    let call := H.setFeature w.1 buf
    (call.1, call.2, w.2 ++ [.set buf call.1])
  getFeature w buf :=
    let call := H.getFeature w.1 buf
    (call.1, call.2.1, call.2.2, w.2 ++ [.get call.1 call.2.1])
  sleep w d := (H.sleep w.1 d, w.2 ++ [.sleep d])

/-- The buffer an event hands to `set_feature`. -/
def Event.sent? : Event → Option Frame
  | .set buf _ => some buf
  | _ => none

/-- Every buffer handed to `set_feature`, in order. -/
def sent (trace : List Event) : List Frame :=
  trace.filterMap Event.sent?

theorem sent_append (first second : List Event) : sent (first ++ second) = sent first ++ sent second :=
  List.filterMap_append

end OpenRazer
