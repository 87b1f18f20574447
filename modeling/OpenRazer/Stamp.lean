import OpenRazer.Operations

universe u

namespace OpenRazer

/-- The fields a caller may leave anything in: the session overwrites the one, the encoder the other. -/
def RazerReport.unstamped (r : RazerReport) : RazerReport :=
  { r with transactionId := 0x00, crc := 0x00 }

def Op.unstamped : Op → Op
  | .send request => .send request.unstamped
  | .transactRaw request => .transactRaw request.unstamped
  | .transact request => .transact request.unstamped
  | op => op

namespace Session

variable {σ : Type u} {H : Host σ}

/-- A session as a caller builds it: the id comes from the entry unless it is overridden. -/
def built (entry : DeviceEntry) (override : Option UInt8) (world : σ) : Session σ :=
  match override with
  | none => Session.new entry world
  | some tid => (Session.new entry world).withTransactionIdOverride tid

theorem built_transactionId (entry : DeviceEntry) (override : Option UInt8) (world : σ) :
    (built entry override world).transactionId = override.getD entry.transactionId := by
  cases override <;> rfl

theorem built_unused (entry : DeviceEntry) (override : Option UInt8) (world : σ) :
    (built entry override world).entry = entry ∧ (built entry override world).trace = [] := by
  cases override <;> exact ⟨rfl, rfl⟩

/-- The session went from `s` to `t` with its identity unchanged and nothing
but `P` handed to `set_feature`. -/
def Issues (P : Frame → Prop) (s t : Session σ) : Prop :=
  t.entry = s.entry ∧ t.transactionId = s.transactionId ∧
    ∃ events, t.trace = s.trace ++ events ∧ ∀ buf ∈ sent events, P buf

theorem Issues.refl (P : Frame → Prop) (s : Session σ) : Issues P s s :=
  ⟨rfl, rfl, [], (List.append_nil _).symm, fun _ member => absurd member List.not_mem_nil⟩

theorem send_issues (request : RazerReport) (s : Session σ) :
    Issues (· = s.wire request) s (send H request s).2 := by
  cases judged : checkRequest request with
  | error e =>
    rw [send_refused judged]
    exact .refl _ s
  | ok =>
    rw [send_accepted judged]
    rcases H.setFeature s.world (s.wire request) with ⟨_ | _, w⟩
    · exact ⟨rfl, rfl, _, rfl, fun buf member => List.mem_singleton.mp member⟩
    · exact ⟨rfl, rfl, _, rfl, fun buf member => List.mem_singleton.mp member⟩

theorem transactRaw_issues (request : RazerReport) (s : Session σ) :
    Issues (· = s.wire request) s (transactRaw H request s).2 := by
  cases judged : checkRequest request with
  | error e =>
    rw [transactRaw_refused judged]
    exact .refl _ s
  | ok =>
    rw [transactRaw_accepted judged]
    refine ⟨rfl, rfl, _, rfl, fun buf member => ?_⟩
    rw [Attempt.sent_events] at member
    exact List.mem_singleton.mp member

theorem transact_issues (request : RazerReport) (s : Session σ) :
    Issues (· = s.wire request) s (transact H request s).2 := by
  cases judged : checkRequest request with
  | error e =>
    rw [transact_refused judged]
    exact .refl _ s
  | ok =>
    rw [transact_accepted judged]
    refine ⟨rfl, rfl, _, rfl, fun buf member => ?_⟩
    rw [sent_schedule] at member
    exact (List.mem_replicate.mp member).2

end Session

namespace Op

variable {σ : Type u} {H : Host σ}

/-- A frame of this operation: its request, with the session's id in byte 1. -/
def FrameOf (entry : DeviceEntry) (tid : UInt8) (op : Op) (buf : Frame) : Prop :=
  ∃ request, op.request entry = .ok request ∧ buf = hidrawBuf (request.withTransactionId tid)

theorem run_issues (op : Op) (s : Session σ) :
    Session.Issues (op.FrameOf s.entry s.transactionId) s (op.run H s).2 := by
  have own {request : RazerReport} {t : Session σ} (asks : op.request s.entry = .ok request)
      (issues : Session.Issues (· = s.wire request) s t) :
      Session.Issues (op.FrameOf s.entry s.transactionId) s t := by
    obtain ⟨entry, tid, events, trace, frames⟩ := issues
    exact ⟨entry, tid, events, trace, fun buf member => ⟨request, asks, frames buf member⟩⟩
  cases kind : op.typed with
  | true =>
    rw [run_typed kind]
    cases asks : op.request s.entry with
    | error e => exact .refl _ s
    | ok request => exact own asks (Session.transact_issues request s)
  | false =>
    cases op with
    | send request =>
      rw [run, Prog.snd_bind_pure]
      exact own rfl (Session.send_issues request s)
    | transactRaw request =>
      rw [run, Prog.snd_bind_pure]
      exact own rfl (Session.transactRaw_issues request s)
    | transact request =>
      rw [run, Prog.snd_bind_pure]
      exact own rfl (Session.transact_issues request s)
    | _ => cases kind

/-- A run is one block of calls for each operation, and every frame of a
block is that operation's. -/
theorem runs_issue (ops : List Op) (s : Session σ) :
    (Prog.runs (run H) ops s).2.entry = s.entry ∧ (Prog.runs (run H) ops s).2.transactionId = s.transactionId ∧
      ∃ blocks : List (List Event), (Prog.runs (run H) ops s).2.trace = s.trace ++ blocks.flatten ∧
        List.Forall₂ (fun op events => ∀ buf ∈ sent events, op.FrameOf s.entry s.transactionId buf) ops blocks := by
  induction ops generalizing s with
  | nil => exact ⟨rfl, rfl, [], (List.append_nil _).symm, .nil⟩
  | cons op rest ih =>
    obtain ⟨entry, tid, events, trace, frames⟩ := run_issues (H := H) op s
    obtain ⟨laterEntry, laterTid, blocks, laterTrace, later⟩ := ih (op.run H s).2
    rw [entry, tid] at later
    refine ⟨laterEntry.trans entry, laterTid.trans tid, events :: blocks, ?_, .cons frames later⟩
    rw [List.flatten_cons, ← List.append_assoc, ← trace]
    exact laterTrace

theorem sent_blocks {P : Op → Frame → Prop} {ops : List Op} {blocks : List (List Event)} {buf : Frame}
    (frames : List.Forall₂ (fun op events => ∀ buf ∈ sent events, P op buf) ops blocks)
    (member : buf ∈ sent blocks.flatten) : ∃ op ∈ ops, P op buf := by
  induction frames with
  | nil => exact absurd member List.not_mem_nil
  | @cons op events ops blocks here _ ih =>
    rw [List.flatten_cons, sent_append] at member
    rcases List.mem_append.mp member with first | later
    · exact ⟨op, List.mem_cons_self .., here buf first⟩
    · obtain ⟨op, among, frame⟩ := ih later
      exact ⟨op, List.mem_cons_of_mem _ among, frame⟩

/-- No session method tells two requests apart that differ in the overwritten fields only. -/
theorem run_unstamped (op : Op) : op.unstamped.run H = op.run H := by
  have sends (request : RazerReport) : Session.send H request.unstamped = Session.send H request := rfl
  have raw (request : RazerReport) : Session.transactRaw H request.unstamped = Session.transactRaw H request := by
    unfold Session.transactRaw
    rw [sends]
  have attempts (request : RazerReport) :
      Session.transactAttempt H request.unstamped = Session.transactAttempt H request := by
    funext attempt last
    unfold Session.transactAttempt
    rw [raw]
    rfl
  cases op with
  | send request => rfl
  | transactRaw request => simp only [unstamped, run, raw]
  | transact request => simp only [unstamped, run, Session.transact, attempts]
  | _ => rfl

theorem runs_unstamped (ops : List Op) (s : Session σ) :
    Prog.runs (run H) (ops.map unstamped) s = Prog.runs (run H) ops s := by
  induction ops generalizing s with
  | nil => rfl
  | cons op rest ih => simp only [List.map_cons, Prog.runs, run_unstamped, ih]

end Op

/-- Byte 1 is the session's in every frame of every run, on retries too, and
nothing a caller leaves in the two overwritten fields can be seen from outside. -/
theorem Session.transaction_id_single_source {σ : Type u} (H : Host σ) (entry : DeviceEntry)
    (override : Option UInt8) (world : σ) (ops : List Op) :
    (∃ blocks : List (List Event),
      (Prog.runs (Op.run H) ops (built entry override world)).2.trace = blocks.flatten ∧
        List.Forall₂ (fun op events => ∀ buf ∈ sent events, ∃ request, op.request entry = .ok request ∧
          buf.get 0 = 0x00 ∧
          buf.report = (request.withTransactionId (override.getD entry.transactionId)).toBytes) ops blocks) ∧
    (∀ buf ∈ sent (Prog.runs (Op.run H) ops (built entry override world)).2.trace,
      buf.get 2 = override.getD entry.transactionId ∧ verifyCrc buf.report = true) ∧
    (∀ ops' : List Op, ops.map Op.unstamped = ops'.map Op.unstamped →
      Prog.runs (Op.run H) ops (built entry override world) =
        Prog.runs (Op.run H) ops' (built entry override world)) := by
  obtain ⟨sameEntry, unused⟩ := built_unused entry override world
  obtain ⟨_, _, blocks, trace, frames⟩ := Op.runs_issue (H := H) ops (built entry override world)
  rw [sameEntry, built_transactionId] at frames
  rw [unused, List.nil_append] at trace
  refine ⟨⟨blocks, trace, frames.imp ?_⟩, ?_, ?_⟩
  · intro op events each buf member
    obtain ⟨request, asks, rfl⟩ := each buf member
    exact ⟨request, asks, hidrawBuf_zero _, report_hidrawBuf _⟩
  · intro buf member
    rw [trace] at member
    obtain ⟨op, _, request, _, rfl⟩ := Op.sent_blocks frames member
    have second : (hidrawBuf (request.withTransactionId (override.getD entry.transactionId)))[1 + 1] =
        override.getD entry.transactionId := by
      rw [hidrawBuf_succ _ (by decide), RazerReport.toBytes_withTransactionId, Vector.getElem_set_self]
    refine ⟨second, ?_⟩
    rw [report_hidrawBuf]
    exact RazerReport.toBytes_verifyCrc _
  · intro ops' same
    rw [← Op.runs_unstamped ops, ← Op.runs_unstamped ops', same]

end OpenRazer
