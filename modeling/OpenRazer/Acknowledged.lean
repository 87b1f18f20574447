import OpenRazer.Library.Journal
import OpenRazer.Settings

universe u

namespace OpenRazer

/-- What a report sets: the register and its argument bytes. -/
def RazerReport.write (r : RazerReport) : Option ((UInt8 × UInt8) × Arguments) :=
  if r.isGet then none else some ((r.commandClass, r.commandId), r.arguments)

theorem Registers.receive_eq (registers : Registers) (r : RazerReport) :
    registers.receive r = r.write.elim registers (Journal.store registers) := by
  unfold receive RazerReport.write
  split
  · rfl
  · rfl

/-- A SET that arrives again finds what it stored. -/
theorem Registers.receive_again (registers : Registers) (r : RazerReport) :
    (registers.receive r).receive r = registers.receive r := by
  unfold receive
  split
  · rfl
  · exact Function.update_idem ..

/-- A status that `from_u8` does not yield is sent as one that it does. -/
theorem RazerReport.fromBytes_toBytes_any (r : RazerReport) :
    fromBytes r.toBytes = { r with status := .fromU8 r.status.toU8, crc := OpenRazer.crc r.toBytes } := by
  have same : r.toBytes = { r with status := .fromU8 r.status.toU8 : RazerReport }.toBytes := by
    simp only [toBytes, Status.toU8_fromU8]
  rw [same, fromBytes_toBytes (Status.fromU8_canonical r.status.toU8)]

/-- A device that takes a SET as a whole or loses it, at its own pleasure, and
answers as it likes; but with success only to a request that it took, and with
the register's content to a GET. `pending` is the request it took last, `none` once one was lost. -/
structure Host.Commits {σ : Type u} (H : Host σ) (registers : σ → Registers) (pending : σ → Option RazerReport) :
    Prop where
  setFeature : ∀ w buf,
    registers (H.setFeature w buf).2 = registers w ∧ pending (H.setFeature w buf).2 = none ∨
      registers (H.setFeature w buf).2 = (registers w).receive (RazerReport.fromBytes (Frame.report buf)) ∧
        pending (H.setFeature w buf).2 = some (RazerReport.fromBytes (Frame.report buf))
  sleep : ∀ w d, registers (H.sleep w d) = registers w ∧ pending (H.sleep w d) = pending w
  getFeature : ∀ w buf, registers (H.getFeature w buf).2.2 = registers w
  success : ∀ w buf got reply w', H.getFeature w buf = (.ok got, reply, w') → 91 ≤ got →
    (RazerReport.fromBytes (Frame.report reply)).status.isOk = true →
      ∃ request, pending w = some request ∧ (request.isGet = true → ∀ args, registers w request.register = some args →
        (RazerReport.fromBytes (Frame.report reply)).arguments = args)

/-- What the device makes of a SET frame, whatever is in the fields that the session and the encoder overwrite. -/
theorem Registers.receive_wire (registers : Registers) (request : RazerReport) (tid : UInt8) :
    registers.receive (RazerReport.fromBytes (Frame.report (hidrawBuf (request.withTransactionId tid)))) =
      registers.receive request := by
  rw [report_hidrawBuf, RazerReport.fromBytes_toBytes_any]
  rfl

/-- Only an accepted response makes a transaction succeed. -/
theorem outcome_eq_ok {request r : RazerReport} {attempts : List Attempt} {a : Attempt} (last : attempts.getLast? = some a)
    (result : outcome request attempts = .ok r) : a.response = some r ∧ checkResponse request r = .ok () := by
  rw [Session.outcome_last last] at result
  cases a with
  | answered got reply complete =>
    cases judged : checkResponse request (RazerReport.fromBytes reply.report) with
    | ok =>
      simp only [Attempt.rejection, Attempt.response, Option.map_some, judged, Attempt.result, Except.ok.injEq] at result
      exact ⟨congrArg some result, result ▸ judged⟩
    | error e => simp [Attempt.rejection, Attempt.response, judged] at result
  | _ => simp [Attempt.rejection, Attempt.response, Attempt.result] at result

namespace Host.Commits

variable {σ : Type u} {H : Host σ} {registers : σ → Registers} {pending : σ → Option RazerReport}
  {request : RazerReport} {before : Registers} {w : σ}

/-- A request that was handed over once or more: it took effect, or it did not. -/
def Settled (registers : σ → Registers) (before : Registers) (request : RazerReport) (w : σ) : Prop :=
  registers w = before ∨ registers w = before.receive request

/-- Where its response is accepted it took effect, and a GET was answered from the register. -/
def Confirmed (registers : σ → Registers) (before : Registers) (request : RazerReport) (w : σ) (a : Attempt) : Prop :=
  ∀ r, a.response = some r → checkResponse request r = .ok () →
    registers w = before.receive request ∧
      (request.isGet = true → ∀ args, before request.register = some args → r.arguments = args)

theorem setFeature_settled (device : H.Commits registers pending) (tid : UInt8) (settled : Settled registers before request w) :
    Settled registers before request (H.setFeature w (hidrawBuf (request.withTransactionId tid))).2 := by
  rcases device.setFeature w (hidrawBuf (request.withTransactionId tid)) with ⟨same, _⟩ | ⟨stored, _⟩
  · rw [Settled, same]
    exact settled
  · rw [Registers.receive_wire] at stored
    rcases settled with fresh | taken
    · exact Or.inr (by rw [stored, fresh])
    · exact Or.inr (by rw [stored, taken, Registers.receive_again])

/-- A success is the answer to a request that was taken, so its SET did not get lost. -/
theorem getFeature_confirmed (device : H.Commits registers pending) (wait : Duration) (tid : UInt8)
    (settled : Settled registers before request w) {given : Except HidError Unit} {w₁ w₂ : σ} {got : Nat} {reply : Frame}
    (complete : 91 ≤ got) (set : H.setFeature w (hidrawBuf (request.withTransactionId tid)) = (given, w₁))
    (read : H.getFeature (H.sleep w₁ wait) (Vector.replicate 91 0) = (.ok got, reply, w₂)) :
    Confirmed registers before request w₂ (.answered got reply complete) := by
  intro r response accepted
  obtain rfl := Option.some.inj response
  obtain ⟨slept, waits⟩ := device.sleep w₁ wait
  have kept : registers w₂ = registers w₁ := by
    have same := device.getFeature (H.sleep w₁ wait) (Vector.replicate 91 0)
    rw [read] at same
    exact same.trans slept
  obtain ⟨asked, pended, recalls⟩ := device.success _ _ got reply w₂ read complete (checkResponse_isOk accepted)
  rw [waits] at pended
  have taking := device.setFeature w (hidrawBuf (request.withTransactionId tid))
  rw [set, Registers.receive_wire] at taking
  rcases taking with ⟨_, lost⟩ | ⟨stored, taken⟩
  · rw [lost] at pended
    cases pended
  · have final : registers w₁ = before.receive request := by
      rcases settled with fresh | again
      · rw [stored, fresh]
      · rw [stored, again, Registers.receive_again]
    refine ⟨kept.trans final, fun get args known => ?_⟩
    rw [taken, report_hidrawBuf, RazerReport.fromBytes_toBytes_any] at pended
    obtain rfl := Option.some.inj pended
    refine recalls get args ?_
    rw [slept, final, Registers.receive, if_pos get]
    exact known

/-- One exchange, started where the request may have taken effect before. -/
theorem exchange (device : H.Commits registers pending) (wait : Duration) (tid : UInt8)
    (settled : Settled registers before request w) :
    Settled registers before request (H.exchange wait (hidrawBuf (request.withTransactionId tid)) w).2 ∧
      Confirmed registers before request (H.exchange wait (hidrawBuf (request.withTransactionId tid)) w).2
        (H.exchange wait (hidrawBuf (request.withTransactionId tid)) w).1 := by
  have given := device.setFeature_settled tid settled
  rw [Host.exchange]
  rcases set : H.setFeature w (hidrawBuf (request.withTransactionId tid)) with ⟨_ | _, w₁⟩
  · rw [set] at given
    exact ⟨given, fun r none => by cases none⟩
  · rw [set] at given
    have slept := (device.sleep w₁ wait).1
    have kept := (device.getFeature (H.sleep w₁ wait) (Vector.replicate 91 0)).trans slept
    rcases read : H.getFeature (H.sleep w₁ wait) (Vector.replicate 91 0) with ⟨_ | got, reply, w₂⟩
    · rw [read] at kept
      dsimp only
      rw [read]
      refine ⟨?_, fun r none => by cases none⟩
      rw [Settled, kept]
      exact given
    · rw [read] at kept
      dsimp only
      rw [read]
      dsimp only
      have after : Settled registers before request w₂ := by
        rw [Settled, kept]
        exact given
      split
      · exact ⟨after, fun r none => by cases none⟩
      · exact ⟨after, device.getFeature_confirmed wait tid settled (by omega) set read⟩

/-- All tries of a transaction together take effect once, or not at all. -/
theorem retry (device : H.Commits registers pending) (wait : Duration) (tid : UInt8) (n : Nat)
    (settled : Settled registers before request w) :
    Settled registers before request (H.retry request wait (hidrawBuf (request.withTransactionId tid)) n w).2 ∧
      ∀ a, (H.retry request wait (hidrawBuf (request.withTransactionId tid)) n w).1.getLast? = some a →
        Confirmed registers before request (H.retry request wait (hidrawBuf (request.withTransactionId tid)) n w).2 a := by
  induction n generalizing w with
  | zero =>
    obtain ⟨after, confirmed⟩ := device.exchange wait tid settled
    refine ⟨after, fun a last => ?_⟩
    obtain rfl := Option.some.inj last
    exact confirmed
  | succ n ih =>
    obtain ⟨after, confirmed⟩ := device.exchange wait tid settled
    by_cases rejected : ((H.exchange wait (hidrawBuf (request.withTransactionId tid)) w).1.rejection request).isSome
    · have rested : Settled registers before request
          (H.sleep (H.exchange wait (hidrawBuf (request.withTransactionId tid)) w).2 RETRY_DELAY) := by
        rw [Settled, (device.sleep _ _).1]
        exact after
      rw [Host.retry_again rejected]
      obtain ⟨later, last⟩ := ih rested
      refine ⟨later, fun a ends => last a ?_⟩
      rwa [List.getLast?_cons_of_ne_nil (Host.retry_ne_nil n _)] at ends
    · rw [Host.retry_settled rejected]
      refine ⟨after, fun a last => ?_⟩
      obtain rfl := Option.some.inj last
      exact confirmed

/-- A transaction takes effect at most once, and once where it succeeds. -/
theorem transact (device : H.Commits registers pending) (accepted : checkRequest request = .ok ()) (s : Session σ) :
    Settled registers (registers s.world) request (Session.transact H request s).2.world ∧
      ∀ r, (Session.transact H request s).1 = .ok r →
        registers (Session.transact H request s).2.world = (registers s.world).receive request ∧
          (request.isGet = true → ∀ args, registers s.world request.register = some args → r.arguments = args) := by
  rw [Session.transact_accepted accepted]
  obtain ⟨after, last⟩ := device.retry s.entry.wait s.transactionId 4 (Or.inl rfl : Settled registers (registers s.world) request s.world)
  refine ⟨after, fun r result => ?_⟩
  obtain ⟨a, ends⟩ := Session.exchanges_last H request s
  obtain ⟨response, judged⟩ := outcome_eq_ok ends result
  exact last a ends r response judged

end Host.Commits

namespace Op

/-- The register that an operation writes and what it writes there, if its report goes out and is a SET. -/
def write (entry : DeviceEntry) (op : Op) : Option ((UInt8 × UInt8) × Arguments) :=
  match op.request entry with
  | .ok request => if checkRequest request = .ok () then request.write else none
  | .error _ => none

/-- `send` and `transactRaw` do not look at what the device makes of the report. -/
def validates : Op → Bool
  | .send _ | .transactRaw _ => false
  | _ => true

/-- Its caller was told that the report was accepted. -/
def acknowledges (op : Op) (reply : Except HidError Reply) : Bool :=
  op.validates && reply.isOk

/-- What one operation adds to the journal of a run. -/
def entries (entry : DeviceEntry) (op : Op) (reply : Except HidError Reply) : List (((UInt8 × UInt8) × Arguments) × Bool) :=
  match op.write entry with
  | some write => [(write, op.acknowledges reply)]
  | none => []

/-- The writes of a run of operations, each with whether it was acknowledged. -/
def journal (entry : DeviceEntry) (ops : List Op) (replies : List (Except HidError Reply)) :
    List (((UInt8 × UInt8) × Arguments) × Bool) :=
  (List.zipWith (entries entry) ops replies).flatten

variable {σ : Type u} {H : Host σ} {registers : σ → Registers} {pending : σ → Option RazerReport} {s : Session σ}
  {op : Op} {reply : Except HidError Reply} {request : RazerReport}

/-- What a request that goes out may leave in the registers. -/
theorem leaves_of_settled {w : σ} {before : Registers} {entry : DeviceEntry} (asks : op.request entry = .ok request)
    (accepted : checkRequest request = .ok ()) (settled : Host.Commits.Settled registers before request w)
    (confirmed : op.acknowledges reply = true → registers w = before.receive request) :
    Journal.Leaves Journal.store before (op.entries entry reply) (registers w) := by
  rw [entries, write, asks]
  dsimp only
  rw [if_pos accepted]
  rw [Host.Commits.Settled, Registers.receive_eq] at settled
  rw [Registers.receive_eq] at confirmed
  cases sets : request.write with
  | none =>
    rw [sets] at settled
    have same : registers w = before := settled.elim id id
    rw [same]
    exact .nil before
  | some write =>
    rw [sets] at settled confirmed
    exact Journal.Leaves.single settled confirmed

/-- One that the outbound check refuses leaves them alone. -/
theorem leaves_of_refused {entry : DeviceEntry} {e : ProtoError} (asks : op.request entry = .ok request)
    (refused : checkRequest request = .error e) (before : Registers) :
    Journal.Leaves Journal.store before (op.entries entry reply) before := by
  rw [entries, write, asks]
  dsimp only
  rw [if_neg (by rw [refused]; exact nofun)]
  exact .nil before

theorem send_leaves (device : H.Commits registers pending) (request : RazerReport) (s : Session σ)
    (reply : Except HidError Reply) :
    Journal.Leaves Journal.store (registers s.world) ((Op.send request).entries s.entry reply)
      (registers (Session.send H request s).2.world) := by
  cases judged : checkRequest request with
  | error e =>
    rw [Session.send_refused judged]
    exact leaves_of_refused rfl judged _
  | ok =>
    have given := device.setFeature_settled s.transactionId
      (Or.inl rfl : Host.Commits.Settled registers (registers s.world) request s.world)
    rw [Session.send_accepted judged, Session.wire]
    rcases set : H.setFeature s.world (hidrawBuf (request.withTransactionId s.transactionId)) with ⟨_ | _, w⟩
    · rw [set] at given
      exact leaves_of_settled rfl judged given fun accepted => by cases accepted
    · rw [set] at given
      refine leaves_of_settled rfl judged ?_ fun accepted => by cases accepted
      rw [Host.Commits.Settled, (device.sleep w s.entry.wait).1]
      exact given

theorem transactRaw_leaves (device : H.Commits registers pending) (request : RazerReport) (s : Session σ)
    (reply : Except HidError Reply) :
    Journal.Leaves Journal.store (registers s.world) ((Op.transactRaw request).entries s.entry reply)
      (registers (Session.transactRaw H request s).2.world) := by
  cases judged : checkRequest request with
  | error e =>
    rw [Session.transactRaw_refused judged]
    exact leaves_of_refused rfl judged _
  | ok =>
    rw [Session.transactRaw_accepted judged]
    exact leaves_of_settled rfl judged (device.exchange s.entry.wait s.transactionId (Or.inl rfl)).1 nofun

theorem transact_leaves (device : H.Commits registers pending) (asks : op.request s.entry = .ok request)
    (told : ∀ reply', reply = .ok reply' → ∃ r, (Session.transact H request s).1 = .ok r) :
    Journal.Leaves Journal.store (registers s.world) (op.entries s.entry reply)
      (registers (Session.transact H request s).2.world) := by
  cases judged : checkRequest request with
  | error e =>
    rw [Session.transact_refused judged]
    exact leaves_of_refused asks judged _
  | ok =>
    obtain ⟨settled, succeeded⟩ := device.transact judged s
    refine leaves_of_settled asks judged settled fun acknowledged => ?_
    cases reply with
    | error e => simp [acknowledges, Except.isOk, Except.toBool] at acknowledged
    | ok reply' =>
      obtain ⟨r, result⟩ := told reply' rfl
      exact (succeeded r result).1

/-- One operation writes its register once, or not at all if it does not report success. -/
theorem run_leaves (device : H.Commits registers pending) (op : Op) (s : Session σ) :
    Journal.Leaves Journal.store (registers s.world) (op.entries s.entry (op.run H s).1)
      (registers (op.run H s).2.world) := by
  cases kind : op.typed with
  | true =>
    rw [run_typed kind]
    cases asks : op.request s.entry with
    | error e =>
      rw [entries, write, asks]
      exact .nil _
    | ok request =>
      refine transact_leaves device asks fun reply' told => ?_
      cases played : (Session.transact H request s).1 with
      | ok r => exact ⟨r, rfl⟩
      | error e =>
        simp only [transacted, played] at told
        cases told
  | false =>
    cases op with
    | send request =>
      rw [run, Prog.snd_bind_pure]
      exact send_leaves device request s _
    | transactRaw request =>
      rw [run, Prog.snd_bind_pure]
      exact transactRaw_leaves device request s _
    | transact request =>
      rw [run, Prog.snd_bind_pure]
      refine transact_leaves device rfl fun reply' told => ?_
      rcases played : Session.transact H request s with ⟨e | r, t⟩
      · rw [Prog.bind_of_error played] at told
        cases told
      · exact ⟨r, rfl⟩
    | _ => cases kind

theorem runs_leave (device : H.Commits registers pending) (ops : List Op) (s : Session σ) :
    Journal.Leaves Journal.store (registers s.world) (journal s.entry ops (Prog.runs (Op.run H) ops s).1)
      (registers (Prog.runs (Op.run H) ops s).2.world) := by
  induction ops generalizing s with
  | nil => exact .nil _
  | cons op rest ih =>
    have here := run_leaves device op s
    have later := ih (op.run H s).2
    obtain ⟨entry, _, _⟩ := run_issues (H := H) op s
    rw [entry] at later
    exact here.append later

/-- A typed operation writes at its own wire address. -/
theorem write_key {entry : DeviceEntry} {op : Op} {write : (UInt8 × UInt8) × Arguments} (typed : op.typed = true)
    (writes : op.write entry = some write) : write.1 = op.command entry := by
  rw [Op.write] at writes
  split at writes
  · rename_i request asks
    rw [Option.ite_none_right_eq_some] at writes
    obtain ⟨_, _, command⟩ := request_typed typed asks
    rw [RazerReport.write, Option.ite_none_left_eq_some] at writes
    obtain ⟨_, _, same⟩ := writes
    rw [← Option.some.inj same, command]
  · cases writes

theorem unconfirmed_of_others {entry : DeviceEntry} {key : UInt8 × UInt8} {ops : List Op}
    (others : ∀ op ∈ ops, op.typed = true ∧ op.command entry ≠ key) (replies : List (Except HidError Reply)) :
    ∀ e ∈ journal entry ops replies, e.1.1 ≠ key := by
  intro e member
  obtain ⟨part, among, inside⟩ := List.mem_flatten.mp member
  obtain ⟨i, bound, here⟩ := List.mem_iff_getElem.mp among
  rw [List.getElem_zipWith] at here
  have before : i < ops.length := by
    rw [List.length_zipWith] at bound
    exact lt_of_lt_of_le bound (Nat.min_le_left ..)
  obtain ⟨typed, other⟩ := others ops[i] (List.getElem_mem before)
  rw [← here, entries] at inside
  split at inside
  · rename_i write writes
    obtain rfl := List.mem_singleton.mp inside
    rw [write_key typed writes]
    exact other
  · cases inside

end Op

/-- Whatever gets lost on the way, and whatever else a run does, a register
holds what the run wrote there last, or something that was tried after that; a
write that was reported as done is never undone by the retries of another. -/
theorem Session.acknowledged_writes_survive {σ : Type u} {H : Host σ} {registers : σ → Registers}
    {pending : σ → Option RazerReport} (device : H.Commits registers pending) (ops : List Op) (s : Session σ)
    (key : UInt8 × UInt8) :
    (registers (Prog.runs (Op.run H) ops s).2.world key = registers s.world key ∧
        Journal.Unconfirmed key (Op.journal s.entry ops (Prog.runs (Op.run H) ops s).1)) ∨
      ∃ before args acknowledged after,
        Op.journal s.entry ops (Prog.runs (Op.run H) ops s).1 = before ++ ((key, args), acknowledged) :: after ∧
          registers (Prog.runs (Op.run H) ops s).2.world key = some args ∧ Journal.Unconfirmed key after :=
  (Op.runs_leave device ops s).read key

namespace Setting

variable {σ : Type u} {H : Host σ} {registers : σ → Registers} {pending : σ → Option RazerReport} {setting : Setting}
  {s : Session σ}

/-- Once a setter has reported success its register holds the value. -/
theorem stored_of_acknowledged (device : H.Commits registers pending) {request : RazerReport}
    (asks : setting.set.request s.entry = .ok request) (isSet : request.isGet = false)
    (acknowledged : (setting.set.run H s).1 = .ok .done) :
    registers (setting.set.run H s).2.world (setting.set.command s.entry) = some request.arguments := by
  have typed : setting.set.typed = true := by cases setting <;> rfl
  obtain ⟨accepted, _, command⟩ := Op.request_typed typed asks
  rw [Op.run_typed typed, asks] at acknowledged ⊢
  cases played : (Session.transact H request s).1 with
  | error e =>
    simp only [Op.transacted, played] at acknowledged
    cases acknowledged
  | ok r =>
    obtain ⟨stored, _⟩ := (device.transact accepted s).2 r played
    change registers (Session.transact H request s).2.world _ = _
    rw [stored, Registers.receive, if_neg (by rw [isSet]; decide), command]
    exact Function.update_self ..

/-- What a getter that succeeds reads, where the register holds the arguments of a setter. -/
theorem read_of_stored (device : H.Commits registers pending) (supported : setting.Supported s.entry) {args : Arguments}
    (stored : registers s.world (setting.set.command s.entry) = some args)
    (reads : ∀ r : RazerReport, r.arguments = args → setting.get.reading s.entry r = .ok setting.value) :
    (setting.get.run H s).1 = .ok setting.value ∨ ∃ e, (setting.get.run H s).1 = .error e := by
  obtain ⟨question, asks, isGet, address⟩ := request_get supported
  have typed : setting.get.typed = true := by cases setting <;> rfl
  obtain ⟨accepted, _, _⟩ := Op.request_typed typed asks
  rw [Op.run_typed typed, asks]
  rcases played : Session.transact H question s with ⟨e | r, t⟩
  · exact Or.inr ⟨e, congrArg Prod.fst (Op.transacted_of_error played)⟩
  · obtain ⟨_, recalls⟩ := (device.transact accepted s).2 r (congrArg Prod.fst played)
    have arguments : r.arguments = args := recalls isGet args (by rw [address, stored])
    exact Or.inl ((congrArg Prod.fst (Op.transacted_of_ok played)).trans (reads r arguments))

/-- After a setter has reported success, and until the same thing is set again,
a getter answers its value or fails, however unreliable the device is. -/
theorem get_returns_acknowledged (device : H.Commits registers pending) (supported : setting.Supported s.entry)
    (acknowledged : (setting.set.run H s).1 = .ok .done) {ops : List Op}
    (others : ∀ op ∈ ops, op.typed = true ∧ setting.isSetter op = false) :
    (setting.get.run H (Prog.runs (Op.run H) ops (setting.set.run H s).2).2).1 = .ok setting.value ∨
      ∃ e, (setting.get.run H (Prog.runs (Op.run H) ops (setting.set.run H s).2).2).1 = .error e := by
  obtain ⟨request, asks, isSet, reads⟩ := request_set supported
  have stored := stored_of_acknowledged device asks isSet acknowledged
  obtain ⟨entrySet, _, _⟩ := Op.run_issues (H := H) setting.set s
  obtain ⟨entryRuns, _, _⟩ := Op.runs_issue (H := H) ops (setting.set.run H s).2
  have still : (Prog.runs (Op.run H) ops (setting.set.run H s).2).2.entry = s.entry := entryRuns.trans entrySet
  have elsewhere : ∀ op ∈ ops, op.typed = true ∧ op.command (setting.set.run H s).2.entry ≠ setting.set.command s.entry := by
    intro op member
    obtain ⟨typed, other⟩ := others op member
    rw [entrySet]
    exact ⟨typed, command_other typed other⟩
  have apart := Op.unconfirmed_of_others elsewhere (Prog.runs (Op.run H) ops (setting.set.run H s).2).1
  rcases (Op.runs_leave device ops (setting.set.run H s).2).read (setting.set.command s.entry) with
    ⟨kept, _⟩ | ⟨before, args, confirmed, after, parts, _, _⟩
  · rw [← still] at supported stored kept reads
    exact read_of_stored device supported (kept.trans stored) reads
  · refine absurd rfl (apart ((setting.set.command s.entry, args), confirmed) ?_)
    rw [parts]
    exact List.mem_append_right _ List.mem_cons_self

end Setting

/-- What goes wrong with one exchange. -/
inductive Fault
  | none
  /-- The SET gets lost, and the device answers with a failure. -/
  | lost
  /-- The SET is taken, and the device answers with a timeout. -/
  | late
  /-- The SET is taken, and nothing can be read. -/
  | mute
  /-- The SET is taken, and the call reports an error. -/
  | cut
deriving DecidableEq

/-- A device with one register for each SET command, and a script of what goes wrong with it. -/
structure FlakyFile where
  registers : Registers
  pending : Option RazerReport
  now : Fault
  faults : List Fault

namespace FlakyFile

def host : Host FlakyFile where
  setFeature w buf :=
    let request := RazerReport.fromBytes (Frame.report buf)
    let now := w.faults.head?.getD .none
    let taken : FlakyFile := ⟨w.registers.receive request, some request, now, w.faults.tail⟩
    match now with
    | .lost => (.ok (), { taken with registers := w.registers, pending := none })
    | .cut => (.error (.io "HIDIOCSFEATURE" 110), taken)
    | _ => (.ok (), taken)
  getFeature w buf :=
    match w.pending, w.now with
    | none, _ => (.ok 91, hidrawBuf { RazerReport.new 0x00 0x00 0x00 with status := .failure }, w)
    | some _, .late => (.ok 91, hidrawBuf { RazerReport.new 0x00 0x00 0x00 with status := .timeout }, w)
    | some _, .mute => (.ok 0, buf, w)
    | some request, _ =>
      let recalled := if request.isGet then w.registers request.register else none
      (.ok 91, hidrawBuf { request with status := .successful, arguments := recalled.getD request.arguments }, w)
  sleep w _ := w

theorem host_commits : host.Commits registers pending where
  setFeature w buf := by
    simp only [host]
    cases w.faults.head?.getD .none with
    | lost => exact Or.inl ⟨rfl, rfl⟩
    | none | late | mute | cut => exact Or.inr ⟨rfl, rfl⟩
  sleep _ _ := ⟨rfl, rfl⟩
  getFeature w buf := by
    simp only [host]
    cases w.pending <;> cases w.now <;> rfl
  success w buf got reply w' read complete success := by
    simp only [host] at read
    cases asked : w.pending with
    | none =>
      simp only [asked, Prod.mk.injEq] at read
      obtain ⟨_, rfl, _⟩ := read
      rw [report_hidrawBuf, RazerReport.fromBytes_toBytes (by trivial)] at success
      cases success
    | some request =>
      refine ⟨request, rfl, fun get args known => ?_⟩
      cases now : w.now with
      | late =>
        simp only [asked, now, Prod.mk.injEq] at read
        obtain ⟨_, rfl, _⟩ := read
        rw [report_hidrawBuf, RazerReport.fromBytes_toBytes (by trivial)] at success
        cases success
      | mute =>
        simp only [asked, now, Prod.mk.injEq, Except.ok.injEq] at read
        omega
      | none | lost | cut =>
        simp only [asked, now, Prod.mk.injEq] at read
        obtain ⟨_, rfl, _⟩ := read
        rw [report_hidrawBuf, RazerReport.fromBytes_toBytes (by trivial)]
        simp [get, known]

/-- A keyboard that answers late once and then loses a SET and the answer to another. -/
def troubled (entry : DeviceEntry) : Session FlakyFile :=
  Session.new entry ⟨fun _ => none, none, .none, [.late, .none, .lost, .mute]⟩

/-- The second setting is taken after all, behind the back of a caller that is told of an error. -/
theorem acknowledged_writes_survive_troubled :
    (registers (Prog.runs (Op.run host) [.setBrightness 0x40, .setBrightness 0x80] (troubled TABLE[2])).2.world (0x0F, 0x04) =
          registers (troubled TABLE[2]).world (0x0F, 0x04) ∧
        Journal.Unconfirmed (0x0F, 0x04) (Op.journal (troubled TABLE[2]).entry [.setBrightness 0x40, .setBrightness 0x80]
          (Prog.runs (Op.run host) [.setBrightness 0x40, .setBrightness 0x80] (troubled TABLE[2])).1)) ∨
      ∃ before args acknowledged after,
        Op.journal (troubled TABLE[2]).entry [.setBrightness 0x40, .setBrightness 0x80]
            (Prog.runs (Op.run host) [.setBrightness 0x40, .setBrightness 0x80] (troubled TABLE[2])).1 =
            before ++ (((0x0F, 0x04), args), acknowledged) :: after ∧
          registers (Prog.runs (Op.run host) [.setBrightness 0x40, .setBrightness 0x80] (troubled TABLE[2])).2.world (0x0F, 0x04) =
            some args ∧ Journal.Unconfirmed (0x0F, 0x04) after :=
  Session.acknowledged_writes_survive host_commits [.setBrightness 0x40, .setBrightness 0x80] (troubled TABLE[2]) (0x0F, 0x04)

/-- The brightness is set on the second try, and read after a change of mode that fails. -/
theorem get_returns_acknowledged_troubled :
    ((Setting.brightness 0x40).get.run host
        (Prog.runs (Op.run host) [.setDeviceMode .driver] ((Setting.brightness 0x40).set.run host (troubled TABLE[2])).2).2).1 =
        .ok (.byte 0x40) ∨
      ∃ e, ((Setting.brightness 0x40).get.run host
        (Prog.runs (Op.run host) [.setDeviceMode .driver] ((Setting.brightness 0x40).set.run host (troubled TABLE[2])).2).2).1 =
        .error e := by
  have supported : (Setting.brightness 0x40).Supported (troubled TABLE[2]).entry := ⟨by decide, by decide⟩
  have acknowledged : ((Setting.brightness 0x40).set.run host (troubled TABLE[2])).1 = .ok .done := by decide +kernel
  exact Setting.get_returns_acknowledged host_commits supported acknowledged (by decide)

end FlakyFile

end OpenRazer
