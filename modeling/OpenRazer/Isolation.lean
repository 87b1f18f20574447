import OpenRazer.Stamp

universe u

namespace OpenRazer

/-- Equal at every index but one. -/
def SameOff {α : Type} {n : Nat} (i : Nat) (a b : Vector α n) : Prop :=
  ∀ j (_ : j < n), j ≠ i → a[j] = b[j]

/-- A device that cannot see byte 1 of a report: in states it cannot tell apart
it answers frames that differ there the same way, up to byte 1 of the reply.
The report id in front of the report puts byte 1 at index 2. -/
structure Host.Blind {σ : Type u} (H : Host σ) (R : σ → σ → Prop) : Prop where
  setFeature : ∀ {w w' buf buf'}, R w w' → SameOff 2 buf buf' →
    (H.setFeature w buf).1 = (H.setFeature w' buf').1 ∧ R (H.setFeature w buf).2 (H.setFeature w' buf').2
  getFeature : ∀ {w w'} (buf), R w w' →
    (H.getFeature w buf).1 = (H.getFeature w' buf).1 ∧
      SameOff 2 (H.getFeature w buf).2.1 (H.getFeature w' buf).2.1 ∧
      R (H.getFeature w buf).2.2 (H.getFeature w' buf).2.2
  sleep : ∀ {w w'} (d), R w w' → R (H.sleep w d) (H.sleep w' d)

/-- The same call, up to byte 1 of the frame it carries. -/
inductive Event.Alike : Event → Event → Prop
  | set (result) {buf buf'} : SameOff 2 buf buf' → Alike (.set buf result) (.set buf' result)
  | get (result) {buf buf'} : SameOff 2 buf buf' → Alike (.get result buf) (.get result buf')
  | sleep (d) : Alike (.sleep d) (.sleep d)

/-- The same report, up to its transaction id. -/
def RazerReport.Alike (r r' : RazerReport) : Prop :=
  ∃ tid, r' = r.withTransactionId tid

/-- The same reply, up to the transaction id of a report in it. -/
inductive Reply.Alike : Reply → Reply → Prop
  | same (reply) : Alike reply reply
  | report {r r'} : r.Alike r' → Alike (.report r) (.report r')

/-- Two sessions on one device entry that differ in their id, and in what it may have reached. -/
structure Session.Twin {σ : Type u} (R : σ → σ → Prop) (s t : Session σ) : Prop where
  entry : s.entry = t.entry
  world : R s.world t.world
  lastAttempts : s.lastAttempts = t.lastAttempts
  trace : List.Forall₂ Event.Alike s.trace t.trace

theorem fromBytes_alike {buf buf' : Frame} (same : SameOff 2 buf buf') :
    (RazerReport.fromBytes buf.report).Alike (RazerReport.fromBytes buf'.report) := by
  have stamped : buf'.report = buf.report.set 1 buf'.report[1] := by
    refine Vector.ext fun i bound => ?_
    by_cases atId : i = 1
    · subst i
      rw [Vector.getElem_set_self]
    · rw [Vector.getElem_set_ne _ _ (Ne.symm atId)]
      simp only [Frame.report, Vector.getElem_ofFn]
      exact (same (1 + i) (by omega) (by omega)).symm
  refine ⟨buf'.report[1], ?_⟩
  rw [← RazerReport.fromBytes_set_id, ← stamped]

/-- Two ids make frames that differ in byte 1 alone: the checksum does not cover it. -/
theorem hidrawBuf_sameOff (request : RazerReport) (tid tid' : UInt8) :
    SameOff 2 (hidrawBuf (request.withTransactionId tid)) (hidrawBuf (request.withTransactionId tid')) := by
  intro j bound notId
  cases j with
  | zero => rw [hidrawBuf_zero, hidrawBuf_zero]
  | succ j =>
    have shifted (r : RazerReport) : (hidrawBuf r)[j + 1] = r.toBytes[j] := by
      have succ := hidrawBuf_succ r (i := j) (by omega)
      simp only [Nat.add_comm 1 j] at succ
      exact succ
    rw [shifted, shifted, RazerReport.toBytes_withTransactionId, RazerReport.toBytes_withTransactionId,
      Vector.getElem_set_ne _ _ (by omega), Vector.getElem_set_ne _ _ (by omega)]

theorem sent_alike {trace trace' : List Event} (alike : List.Forall₂ Event.Alike trace trace') :
    List.Forall₂ (fun buf buf' => SameOff 2 buf buf' ∧ buf[89] = buf'[89]) (sent trace) (sent trace') := by
  induction alike with
  | nil => exact .nil
  | cons here _ ih =>
    cases here with
    | set _ same => exact .cons ⟨same, same 89 (by decide) (by decide)⟩ ih
    | get _ _ => exact ih
    | sleep _ => exact ih

namespace Session

variable {σ : Type u} {H : Host σ} {R : σ → σ → Prop}

theorem Twin.trace_append {s t : Session σ} {e e' : Event} (twin : Twin R s t) (alike : e.Alike e') :
    List.Forall₂ Event.Alike (s.trace ++ [e]) (t.trace ++ [e']) :=
  List.rel_append twin.trace (.cons alike .nil)

theorem setFeature_related (blind : H.Blind R) {buf buf' : Frame} (same : SameOff 2 buf buf') :
    Prog.Related (Twin R) (fun _ _ => True) (setFeature H buf) (setFeature H buf') := by
  intro s t twin
  obtain ⟨result, world⟩ := blind.setFeature twin.world same
  have alike : List.Forall₂ Event.Alike (setFeature H buf s).2.trace (setFeature H buf' t).2.trace := by
    simp only [setFeature, ← result]
    exact twin.trace_append (.set _ same)
  refine ⟨?_, ⟨twin.entry, world, twin.lastAttempts, alike⟩⟩
  simp only [setFeature, ← result]
  rcases (H.setFeature s.world buf).1 with e | _
  · exact .error e
  · exact .ok trivial

theorem getFeature_related (blind : H.Blind R) (buf : Frame) :
    Prog.Related (Twin R) (fun a b => a.1 = b.1 ∧ SameOff 2 a.2 b.2) (getFeature H buf) (getFeature H buf) := by
  intro s t twin
  obtain ⟨result, reply, world⟩ := blind.getFeature buf twin.world
  have alike : List.Forall₂ Event.Alike (getFeature H buf s).2.trace (getFeature H buf t).2.trace := by
    simp only [getFeature, ← result]
    exact twin.trace_append (.get _ reply)
  refine ⟨?_, ⟨twin.entry, world, twin.lastAttempts, alike⟩⟩
  simp only [getFeature, ← result]
  rcases (H.getFeature s.world buf).1 with e | got
  · exact .error e
  · exact .ok ⟨rfl, reply⟩

theorem sleep_related (blind : H.Blind R) (d : Duration) :
    Prog.Related (Twin R) Eq (sleep H d) (sleep H d) := by
  intro s t twin
  exact ⟨.ok rfl, ⟨twin.entry, blind.sleep d twin.world, twin.lastAttempts, twin.trace_append (.sleep d)⟩⟩

theorem send_related (blind : H.Blind R) (request : RazerReport) :
    Prog.Related (Twin R) Eq (send H request) (send H request) := by
  refine .bind (A := Eq) (.lift (.refl (fun _ => rfl) _)) fun _ _ _ => ?_
  refine .bind (A := fun _ _ => True) (.read fun _ _ _ => trivial) fun tid tid' _ => ?_
  refine .bind (setFeature_related blind (hidrawBuf_sameOff request tid tid')) fun _ _ _ => ?_
  refine .bind (A := Eq) (.read fun s t twin => congrArg _ twin.entry) fun wait _ same => ?_
  subst same
  exact sleep_related blind wait

theorem transactRaw_related (blind : H.Blind R) (request : RazerReport) :
    Prog.Related (Twin R) RazerReport.Alike (transactRaw H request) (transactRaw H request) := by
  refine .bind (send_related blind request) fun _ _ _ => ?_
  refine .bind (getFeature_related blind _) fun first second same => ?_
  obtain ⟨got, buf⟩ := first
  obtain ⟨got', buf'⟩ := second
  obtain ⟨rfl, reply⟩ := same
  change Prog.Related (Twin R) RazerReport.Alike (if got < 91 then _ else _) (if got < 91 then _ else _)
  split
  · exact .lift (.error _)
  · exact .pure (fromBytes_alike reply)

/-- A retry is decided without looking at the id. -/
theorem transactAttempt_related (blind : H.Blind R) (request : RazerReport) (attempt : Nat) (last : Option ProtoError) :
    Prog.Related (Twin R) (Sum.LiftRel RazerReport.Alike Eq) (transactAttempt H request attempt last)
      (transactAttempt H request attempt last) := by
  refine .bind (A := Eq) ?_ fun _ _ _ => ?_
  · split
    · exact sleep_related blind RETRY_DELAY
    · exact .pure rfl
  refine .bind (.modify fun s t twin => ⟨twin.entry, twin.world, rfl, twin.trace⟩) fun _ _ _ => ?_
  refine .bind (transactRaw_related blind request) fun response _ same => ?_
  obtain ⟨tid, rfl⟩ := same
  refine .bind (.modify fun s t twin => ⟨twin.entry, twin.world, twin.lastAttempts, twin.trace⟩) fun _ _ _ => ?_
  have judged : checkResponse request (response.withTransactionId tid) = checkResponse request response := rfl
  rw [judged]
  cases checkResponse request response with
  | ok => exact .pure (.inl ⟨tid, rfl⟩)
  | error e => exact .pure (.inr rfl)

theorem transact_related (blind : H.Blind R) (request : RazerReport) :
    Prog.Related (Twin R) RazerReport.Alike (transact H request) (transact H request) := by
  refine .bind (A := Sum.LiftRel RazerReport.Alike Eq) (.loop ?_ MAX_ATTEMPTS 0 rfl) fun first second same => ?_
  · intro attempt last _ same
    subst same
    exact transactAttempt_related blind request attempt last
  · cases same with
    | inl alike => exact .pure alike
    | inr same =>
      subst same
      exact .lift (.error _)

end Session

namespace Op

variable {σ : Type u} {H : Host σ} {R : σ → σ → Prop}

/-- No parser looks at the id. -/
theorem reading_alike (op : Op) (entry : DeviceEntry) {r r' : RazerReport} (alike : r.Alike r') :
    Prog.Agree Reply.Alike (op.reading entry r) (op.reading entry r') := by
  have raw : Prog.Agree Reply.Alike (.ok (.report r) : Except HidError Reply) (.ok (.report r')) := .ok (.report alike)
  obtain ⟨tid, rfl⟩ := alike
  have blind {reply : Except HidError Reply} : Prog.Agree Reply.Alike reply reply := .refl Reply.Alike.same reply
  cases op with
  | transactRaw _ => exact raw
  | transact _ => exact raw
  | _ => exact blind

theorem run_related (blind : H.Blind R) (op : Op) :
    Prog.Related (Session.Twin R) Reply.Alike (op.run H) (op.run H) := by
  have done {s : Session σ} {r r' : Except HidError RazerReport} (same : Prog.Agree RazerReport.Alike r r') :
      Prog.Agree Reply.Alike (r.bind (op.reading s.entry ·)) (r'.bind (op.reading s.entry ·)) := by
    cases same with
    | ok alike => exact reading_alike op s.entry alike
    | error e => exact .error e
  cases kind : op.typed with
  | true =>
    intro s t twin
    rw [run_typed kind, run_typed kind, ← twin.entry]
    cases op.request s.entry with
    | error e => exact ⟨.error e, twin⟩
    | ok request =>
      obtain ⟨result, after⟩ := Session.transact_related blind request s t twin
      refine ⟨?_, after⟩
      simp only [transacted, ← twin.entry]
      exact done result
  | false =>
    cases op with
    | send request => exact .bind (Session.send_related blind request) fun _ _ _ => .pure (.same _)
    | transactRaw request => exact .bind (Session.transactRaw_related blind request) fun _ _ alike => .pure (.report alike)
    | transact request => exact .bind (Session.transact_related blind request) fun _ _ alike => .pure (.report alike)
    | _ => cases kind

end Op

/-- Runs of one operation list under two ids, on a device that is blind to the
id: the arms differ in index 2 of the frames and in nothing else. -/
theorem Session.arms_differ_in_one_byte {σ : Type u} {H : Host σ} {R : σ → σ → Prop} (blind : H.Blind R)
    {world world' : σ} (same : R world world') (entry : DeviceEntry) (t₁ t₂ : UInt8) (ops : List Op) :
    let one := Prog.runs (Op.run H) ops (built entry (some t₁) world)
    let two := Prog.runs (Op.run H) ops (built entry (some t₂) world')
    List.Forall₂ (Prog.Agree Reply.Alike) one.1 two.1 ∧
      one.2.lastAttempts = two.2.lastAttempts ∧
      List.Forall₂ Event.Alike one.2.trace two.2.trace ∧
      List.Forall₂ (fun buf buf' => SameOff 2 buf buf' ∧ buf[89] = buf'[89]) (sent one.2.trace) (sent two.2.trace) := by
  have twin : Twin R (built entry (some t₁) world) (built entry (some t₂) world') := ⟨rfl, same, rfl, .nil⟩
  have each (op op' : Op) (equal : op = op') : Prog.Related (Twin R) Reply.Alike (op.run H) (op'.run H) := by
    subst equal
    exact Op.run_related blind op
  have repeated : List.Forall₂ Eq ops ops := List.forall₂_same.mpr fun _ _ => rfl
  obtain ⟨results, after⟩ := Prog.Related.runs each repeated twin
  exact ⟨results, after.lastAttempts, after.trace, sent_alike after.trace⟩

/-- A device that acknowledges every report with the report itself, id included. -/
def echo : Host Frame where
  setFeature _ buf := (.ok (), buf)
  getFeature last _ := (.ok 91, last.set 1 Status.successful.toU8, last)
  sleep last _ := last

theorem echo_blind : echo.Blind (SameOff 2) where
  setFeature _ same := ⟨rfl, same⟩
  getFeature {w w'} _ same := by
    refine ⟨rfl, fun j bound notId => ?_, same⟩
    simp only [echo, Vector.getElem_set]
    split
    · rfl
    · exact same j bound notId
  sleep _ same := same

/-- The two arms of the experiment: the device mode is written under `0x1F` and under `0xFF`. -/
theorem Session.arms_differ_in_one_byte_echo :
    List.Forall₂ Event.Alike
      (Prog.runs (Op.run echo) [.setDeviceMode .driver, .getDeviceMode]
        (built TABLE[2] (some 0x1F) (Vector.replicate 91 0))).2.trace
      (Prog.runs (Op.run echo) [.setDeviceMode .driver, .getDeviceMode]
        (built TABLE[2] (some 0xFF) (Vector.replicate 91 0))).2.trace :=
  (arms_differ_in_one_byte echo_blind (fun _ _ _ => rfl) TABLE[2] 0x1F 0xFF [.setDeviceMode .driver, .getDeviceMode]).2.2.1

end OpenRazer
