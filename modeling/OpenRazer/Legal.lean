import OpenRazer.Stamp

universe u

namespace OpenRazer

/-- A frame the host may put on the wire: the report starts behind the report id. -/
structure Frame.Legal (buf : Frame) : Prop where
  reportId : buf.get 0 = 0x00
  status : buf.get 1 = Status.new.toU8
  protocolType : buf.get 5 = 0x00
  dataSize : (buf.get 6).toNat ≤ 80
  reserved : buf.get 90 = 0x00
  checksum : verifyCrc (Frame.report buf) = true

/-- A report that makes a legal frame whatever id is stamped into it. -/
def RazerReport.Legal (r : RazerReport) : Prop :=
  r.status.toU8 = Status.new.toU8 ∧ r.protocolType = 0x00 ∧ r.dataSize.toNat ≤ 80 ∧ r.reserved = 0x00

theorem Frame.legal_hidrawBuf {r : RazerReport} : Frame.Legal (hidrawBuf r) ↔ r.Legal := by
  have byte {i : Nat} (bound : i < 90) (notCrc : i ≠ 88) : (hidrawBuf r)[1 + i] = r.layout i :=
    (hidrawBuf_succ r bound).trans (RazerReport.toBytes_layout r bound notCrc)
  have status : (hidrawBuf r).get 1 = r.status.toU8 := byte (i := 0) (by decide) (by decide)
  have protocolType : (hidrawBuf r).get 5 = r.protocolType := byte (i := 4) (by decide) (by decide)
  have dataSize : (hidrawBuf r).get 6 = r.dataSize := byte (i := 5) (by decide) (by decide)
  have reserved : (hidrawBuf r).get 90 = r.reserved := byte (i := 89) (by decide) (by decide)
  constructor
  · rintro ⟨_, atStatus, atProtocol, atSize, atReserved, _⟩
    rw [status] at atStatus
    rw [protocolType] at atProtocol
    rw [dataSize] at atSize
    rw [reserved] at atReserved
    exact ⟨atStatus, atProtocol, atSize, atReserved⟩
  · rintro ⟨atStatus, atProtocol, atSize, atReserved⟩
    refine ⟨hidrawBuf_zero r, status.trans atStatus, protocolType.trans atProtocol, ?_, reserved.trans atReserved, ?_⟩
    · rw [dataSize]
      exact atSize
    · rw [report_hidrawBuf]
      exact r.toBytes_verifyCrc

/-- The entry points that take a report as it is. -/
inductive RawOp
  | send
  | transactRaw
  | transact
deriving DecidableEq

def RawOp.on (request : RazerReport) : RawOp → Op
  | send => .send request
  | transactRaw => .transactRaw request
  | transact => .transact request

namespace RawOp

variable {σ : Type u} {H : Host σ} {request : RazerReport} {s : Session σ}

/-- Only legal frames leave, and a request that is not legal is refused before anything happens. -/
def Guarded (op : RawOp) (H : Host σ) (request : RazerReport) (s : Session σ) : Prop :=
  ∃ events, ((op.on request).run H s).2.trace = s.trace ++ events ∧ (∀ buf ∈ sent events, Frame.Legal buf) ∧
    (¬request.Legal → (∃ e, ((op.on request).run H s).1 = .error (.proto e)) ∧ events = [])

theorem on_refused (op : RawOp) {e : ProtoError} (refused : checkRequest request = .error e) :
    ((op.on request).run H s).1 = .error (.proto e) ∧ ((op.on request).run H s).2.trace = s.trace := by
  cases op with
  | send =>
    simp only [on, Op.run, Prog.bind_of_error (Session.send_refused refused), and_self]
  | transactRaw =>
    simp only [on, Op.run, Prog.bind_of_error (Session.transactRaw_refused refused), and_self]
  | transact =>
    simp only [on, Op.run, Prog.bind_of_error (Session.transact_refused refused), and_self]

theorem on_issues (op : RawOp) (H : Host σ) (request : RazerReport) (s : Session σ) :
    Session.Issues (· = s.wire request) s ((op.on request).run H s).2 := by
  cases op with
  | send =>
    rw [on, Op.run, Prog.snd_bind_pure]
    exact Session.send_issues request s
  | transactRaw =>
    rw [on, Op.run, Prog.snd_bind_pure]
    exact Session.transactRaw_issues request s
  | transact =>
    rw [on, Op.run, Prog.snd_bind_pure]
    exact Session.transact_issues request s

/-- A request that passes the outbound check does reach the transport. -/
theorem on_accepted (op : RawOp) (accepted : checkRequest request = .ok ()) :
    ∃ events, ((op.on request).run H s).2.trace = s.trace ++ events ∧ s.wire request ∈ sent events := by
  cases op with
  | send =>
    rw [on, Op.run, Prog.snd_bind_pure, Session.send_accepted accepted]
    rcases H.setFeature s.world (s.wire request) with ⟨_ | _, w⟩
    · exact ⟨_, rfl, List.mem_cons_self ..⟩
    · exact ⟨_, rfl, List.mem_cons_self ..⟩
  | transactRaw =>
    rw [on, Op.run, Prog.snd_bind_pure, Session.transactRaw_accepted accepted]
    refine ⟨_, rfl, ?_⟩
    rw [Attempt.sent_events]
    exact List.mem_cons_self ..
  | transact =>
    rw [on, Op.run, Prog.snd_bind_pure, Session.transact_accepted accepted]
    refine ⟨_, rfl, ?_⟩
    obtain ⟨positive, _⟩ := Session.exchanges_bounds H request s
    rw [sent_schedule]
    exact List.mem_replicate.mpr ⟨by omega, rfl⟩

/-- `check_request` looks at every field a legal frame constrains except the
status: the guard holds exactly where that field is right or another one is wrong. -/
theorem guarded_iff_status_new (op : RawOp) (H : Host σ) (request : RazerReport) (s : Session σ) :
    op.Guarded H request s ↔ request.status.toU8 = Status.new.toU8 ∨ checkRequest request ≠ .ok () := by
  cases judged : checkRequest request with
  | error e =>
    obtain ⟨refused, nothing⟩ := op.on_refused (H := H) (s := s) judged
    refine iff_of_true ?_ (Or.inr (by simp))
    exact ⟨[], by rw [nothing, List.append_nil], fun buf member => absurd member List.not_mem_nil,
      fun _ => ⟨⟨e, refused⟩, rfl⟩⟩
  | ok =>
    obtain ⟨size, protocol, reserved⟩ := checkRequest_ok_iff.mp judged
    simp only [ne_eq, not_true_eq_false, or_false]
    constructor
    · rintro ⟨events, trace, legal, _⟩
      obtain ⟨made, trace', reached⟩ := op.on_accepted (H := H) (s := s) judged
      have same := List.append_cancel_left (trace.symm.trans trace')
      subst same
      exact (Frame.legal_hidrawBuf.mp (legal _ reached)).1
    · intro status
      have legal : request.Legal := ⟨status, protocol, size, reserved⟩
      obtain ⟨_, _, events, trace, frames⟩ := op.on_issues H request s
      refine ⟨events, trace, ?_, fun illegal => absurd legal illegal⟩
      intro buf member
      rw [frames buf member]
      exact Frame.legal_hidrawBuf.mpr legal

/-- A report whose status says `Busy` passes the check and is put on the wire. -/
theorem busy_request_is_sent :
    ¬RawOp.send.Guarded Mock.host { Cmd.getDeviceMode with status := .busy } (Session.new TABLE[2] {}) := by
  rintro ⟨events, trace, legal, _⟩
  have reached : hidrawBuf ({ Cmd.getDeviceMode with status := .busy }.withTransactionId 0x1F) ∈ sent events := by
    rw [← List.nil_append events]
    change _ ∈ sent ((Session.new TABLE[2] ({} : Mock)).trace ++ events)
    rw [← trace]
    exact List.mem_cons_self ..
  have status := (legal _ reached).status
  revert status
  decide

end RawOp

end OpenRazer
