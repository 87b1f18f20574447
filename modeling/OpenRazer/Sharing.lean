import OpenRazer.Acknowledged

/-! A device that other programs talk to at the same time, between any two calls of a session. -/

universe u

namespace OpenRazer

/-- A report that reached the device: from the session or from someone else, and taken as a whole or lost. -/
structure Arrival where
  own : Bool
  request : RazerReport
  taken : Bool
deriving DecidableEq

/-- What the device stores of it. -/
def Arrival.write (a : Arrival) : Option ((UInt8 × UInt8) × Arguments) :=
  if a.taken then a.request.write else none

/-- The registers after these arrivals. -/
def Registers.after (registers : Registers) (arrivals : List Arrival) : Registers :=
  Journal.replay registers (arrivals.filterMap Arrival.write)

theorem Registers.after_append (registers : Registers) (first second : List Arrival) :
    registers.after (first ++ second) = (registers.after first).after second := by
  rw [after, List.filterMap_append, Journal.replay_append]
  rfl

theorem Registers.after_agreed {registers : Registers} {arrivals : List Arrival} {key : UInt8 × UInt8} {args : Arguments}
    (agreed : ∀ a ∈ arrivals, ∀ args', a.write = some (key, args') → args' = args)
    (written : ∃ a ∈ arrivals, a.write = some (key, args)) : registers.after arrivals key = some args := by
  refine Journal.replay_agreed (fun write member own => ?_) ?_
  · obtain ⟨a, among, writes⟩ := List.mem_filterMap.mp member
    refine agreed a among write.2 ?_
    rw [writes, ← own]
  · obtain ⟨a, among, writes⟩ := written
    exact ⟨_, List.mem_filterMap.mpr ⟨a, among, writes⟩, rfl⟩

/-- A success: the head of the request comes back, to a GET with what the registers hold. -/
structure Answers (registers : Registers) (request response : RazerReport) : Prop where
  transactionId : response.transactionId = request.transactionId
  command : (response.commandClass, response.commandId) = (request.commandClass, request.commandId)
  arguments : request.isGet = true → ∀ args, registers request.register = some args → response.arguments = args

/-- None of these came from the session. -/
def Foreign (arrivals : List Arrival) : Prop :=
  ∀ a ∈ arrivals, a.own = false

/-- A device with a queue of its own: around each call of the session any number
of reports of others arrive. Success is only ever the answer to the report that
came last before the read, and only if that was taken; everything else is at the device's pleasure. -/
structure Host.Serves {σ : Type u} (H : Host σ) (initial : Registers) (arrivals : σ → List Arrival) : Prop where
  setFeature : ∀ w buf, ∃ before taken after, Foreign before ∧ Foreign after ∧ arrivals (H.setFeature w buf).2 =
    arrivals w ++ (before ++ ⟨true, RazerReport.fromBytes (Frame.report buf), taken⟩ :: after)
  sleep : ∀ w d, ∃ others, Foreign others ∧ arrivals (H.sleep w d) = arrivals w ++ others
  getFeature : ∀ w buf, ∃ before after, Foreign before ∧ Foreign after ∧
    arrivals (H.getFeature w buf).2.2 = arrivals w ++ (before ++ after) ∧
      ∀ got, (H.getFeature w buf).1 = .ok got → 91 ≤ got →
        (RazerReport.fromBytes (Frame.report (H.getFeature w buf).2.1)).status.isOk = true →
          ∃ last, (arrivals w ++ before).getLast? = some last ∧ last.taken = true ∧
            Answers (initial.after (arrivals w ++ before)) last.request
              (RazerReport.fromBytes (Frame.report (H.getFeature w buf).2.1))

/-- The request as the device decodes it. -/
def RazerReport.stamped (request : RazerReport) (tid : UInt8) : RazerReport :=
  RazerReport.fromBytes (Frame.report (hidrawBuf (request.withTransactionId tid)))

theorem RazerReport.write_stamped (request : RazerReport) (tid : UInt8) : (request.stamped tid).write = request.write := by
  rw [stamped, report_hidrawBuf, fromBytes_toBytes_any]
  rfl

/-- Among the arrivals the session's own are this request. -/
def Mine (request : RazerReport) (tid : UInt8) (arrivals : List Arrival) : Prop :=
  ∀ a ∈ arrivals, a.own = true → a.request = request.stamped tid

theorem Foreign.mine {arrivals : List Arrival} (foreign : Foreign arrivals) (request : RazerReport) (tid : UInt8) :
    Mine request tid arrivals := by
  intro a member own
  rw [foreign a member] at own
  cases own

theorem Mine.append {request : RazerReport} {tid : UInt8} {first second : List Arrival} (one : Mine request tid first)
    (two : Mine request tid second) : Mine request tid (first ++ second) := by
  intro a member
  rcases List.mem_append.mp member with member | member
  · exact one a member
  · exact two a member

/-- The response answers one of the arrivals since `start`, by the registers of that moment. -/
def Heard (initial : Registers) (start since : List Arrival) (response : RazerReport) : Prop :=
  ∃ earlier last later, since = earlier ++ last :: later ∧ last.taken = true ∧
    Answers (initial.after (start ++ (earlier ++ [last]))) last.request response

theorem Heard.prepend {initial : Registers} {start since : List Arrival} {response : RazerReport} {first : List Arrival}
    (heard : Heard initial (start ++ first) since response) : Heard initial start (first ++ since) response := by
  obtain ⟨earlier, last, later, rfl, taken, answers⟩ := heard
  refine ⟨first ++ earlier, last, later, by simp, taken, ?_⟩
  simpa using answers

theorem Heard.of_last {initial : Registers} {start observed : List Arrival} {last : Arrival} {response : RazerReport}
    (nonempty : observed ≠ []) (ends : (start ++ observed).getLast? = some last) (taken : last.taken = true)
    (answers : Answers (initial.after (start ++ observed)) last.request response) (later : List Arrival) :
    Heard initial start (observed ++ later) response := by
  rw [List.getLast?_append_of_ne_nil _ nonempty, List.getLast?_eq_some_iff] at ends
  obtain ⟨earlier, rfl⟩ := ends
  exact ⟨earlier, last, later, by simp, taken, answers⟩

/-- What a session notes of the answers is the last one's transaction id. -/
theorem echoed_last {attempts : List Attempt} {a : Attempt} {r : RazerReport} (ends : attempts.getLast? = some a)
    (response : a.response = some r) (before : Option UInt8) : echoed before attempts = some r.transactionId := by
  obtain ⟨earlier, rfl⟩ := List.getLast?_eq_some_iff.mp ends
  rw [echoed, List.foldl_append, List.foldl_cons, response]
  rfl

namespace Host.Serves

variable {σ : Type u} {H : Host σ} {initial : Registers} {arrivals : σ → List Arrival} {request : RazerReport} {w : σ}

/-- The frame of a session arrives, taken or lost. -/
theorem delivers (device : H.Serves initial arrivals) (request : RazerReport) (tid : UInt8) (w : σ) :
    ∃ since, since ≠ [] ∧ Mine request tid since ∧
      arrivals (H.setFeature w (hidrawBuf (request.withTransactionId tid))).2 = arrivals w ++ since := by
  obtain ⟨before, taken, after, foreign, others, given⟩ := device.setFeature w (hidrawBuf (request.withTransactionId tid))
  refine ⟨_, by simp, (foreign.mine request tid).append ?_, given⟩
  intro a member own
  rcases List.mem_cons.mp member with rfl | member
  · rfl
  · exact others.mine request tid a member own

/-- One exchange: what arrived meanwhile, and what its response answers. -/
theorem exchange (device : H.Serves initial arrivals) (wait : Duration) (request : RazerReport) (tid : UInt8) (w : σ) :
    ∃ since, arrivals (H.exchange wait (hidrawBuf (request.withTransactionId tid)) w).2 = arrivals w ++ since ∧
      Mine request tid since ∧
      ∀ r, (H.exchange wait (hidrawBuf (request.withTransactionId tid)) w).1.response = some r → r.status.isOk = true →
        Heard initial (arrivals w) since r := by
  obtain ⟨sent, nonempty, own, given⟩ := device.delivers request tid w
  rw [Host.exchange]
  rcases set : H.setFeature w (hidrawBuf (request.withTransactionId tid)) with ⟨_ | _, w₁⟩
  · rw [set] at given
    exact ⟨sent, given, own, fun r none => by cases none⟩
  · rw [set] at given
    obtain ⟨meanwhile, asleep, slept⟩ := device.sleep w₁ wait
    obtain ⟨first, second, foreign, later, done, success⟩ := device.getFeature (H.sleep w₁ wait) (Vector.replicate 91 0)
    have mine := (own.append (asleep.mine request tid)).append ((foreign.mine request tid).append (later.mine request tid))
    rw [slept, given, List.append_assoc (arrivals w)] at done success
    rw [List.append_assoc] at done
    rcases read : H.getFeature (H.sleep w₁ wait) (Vector.replicate 91 0) with ⟨_ | got, reply, w₂⟩
    · rw [read] at done
      dsimp only
      rw [read]
      exact ⟨_, done, mine, fun r none => by cases none⟩
    · rw [read] at done success
      dsimp only
      rw [read]
      dsimp only
      split
      · exact ⟨_, done, mine, fun r none => by cases none⟩
      · rename_i complete
        refine ⟨_, done, mine, fun r response accepted => ?_⟩
        obtain rfl := Option.some.inj response
        obtain ⟨last, ends, took, answers⟩ := success got rfl (Nat.le_of_not_lt complete) accepted
        rw [List.append_assoc] at ends answers
        have some : sent ++ meanwhile ++ first ≠ [] := by simp [nonempty]
        have heard := Heard.of_last some ends took answers second
        rwa [List.append_assoc] at heard

/-- Among the tries of a transaction the last one's response is the one that counts. -/
theorem retry (device : H.Serves initial arrivals) (wait : Duration) (request : RazerReport) (tid : UInt8) (n : Nat) (w : σ) :
    ∃ since, arrivals (H.retry request wait (hidrawBuf (request.withTransactionId tid)) n w).2 = arrivals w ++ since ∧
      Mine request tid since ∧
      ∀ a r, (H.retry request wait (hidrawBuf (request.withTransactionId tid)) n w).1.getLast? = some a →
        a.response = some r → r.status.isOk = true → Heard initial (arrivals w) since r := by
  induction n generalizing w with
  | zero =>
    obtain ⟨since, grown, mine, heard⟩ := device.exchange wait request tid w
    refine ⟨since, grown, mine, fun a r last => ?_⟩
    obtain rfl := Option.some.inj last
    exact heard r
  | succ n ih =>
    obtain ⟨since, grown, mine, heard⟩ := device.exchange wait request tid w
    by_cases rejected : ((H.exchange wait (hidrawBuf (request.withTransactionId tid)) w).1.rejection request).isSome
    · obtain ⟨rest, asleep, rested⟩ := device.sleep (H.exchange wait (hidrawBuf (request.withTransactionId tid)) w).2 RETRY_DELAY
      obtain ⟨later, regrown, again, hears⟩ :=
        ih (H.sleep (H.exchange wait (hidrawBuf (request.withTransactionId tid)) w).2 RETRY_DELAY)
      rw [rested, grown] at regrown hears
      rw [Host.retry_again rejected]
      have own := mine.append ((asleep.mine request tid).append again)
      refine ⟨since ++ (rest ++ later), ?_, own, fun a r last response accepted => ?_⟩
      · rw [regrown]
        simp only [List.append_assoc]
      · rw [List.getLast?_cons_of_ne_nil (Host.retry_ne_nil n _)] at last
        exact (hears a r last response accepted).prepend.prepend
    · rw [Host.retry_settled rejected]
      refine ⟨since, grown, mine, fun a r last => ?_⟩
      obtain rfl := Option.some.inj last
      exact heard r

/-- A transaction that succeeds was told so of one of the reports that arrived while it ran. -/
theorem transact (device : H.Serves initial arrivals) (accepted : checkRequest request = .ok ()) (s : Session σ) :
    ∃ since, arrivals (Session.transact H request s).2.world = arrivals s.world ++ since ∧
      Mine request s.transactionId since ∧
      ∀ r, (Session.transact H request s).1 = .ok r →
        checkResponse request r = .ok () ∧ Heard initial (arrivals s.world) since r ∧
          (Session.transact H request s).2.lastResponseTransactionId = some r.transactionId := by
  obtain ⟨since, grown, mine, heard⟩ := device.retry s.entry.wait request s.transactionId 4 s.world
  rw [Session.transact_accepted accepted]
  refine ⟨since, grown, mine, fun r result => ?_⟩
  obtain ⟨a, ends⟩ := Session.exchanges_last H request s
  obtain ⟨response, judged⟩ := outcome_eq_ok ends result
  exact ⟨judged, heard a r ends response (checkResponse_isOk judged), echoed_last ends response _⟩

end Host.Serves

/-- An accepted response is to a request of the same command. -/
theorem checkResponse_command {request response : RazerReport} (accepted : checkResponse request response = .ok ()) :
    (response.commandClass, response.commandId) = (request.commandClass, request.commandId) := by
  rcases checkResponse_cases request response with ⟨_, verdict⟩ | ⟨_, _, _, verdict⟩ | ⟨⟨_, cls, id⟩, _⟩
  · rw [verdict] at accepted
    cases accepted
  · rw [verdict] at accepted
    cases accepted
  · rw [cls, id]

/-- The report that an accepted response answers, whoever sent it, is of the same command. -/
theorem Answers.alike {registers : Registers} {request answered response : RazerReport}
    (answers : Answers registers answered response) (accepted : checkResponse request response = .ok ()) :
    (answered.commandClass, answered.commandId) = (request.commandClass, request.commandId) ∧
      answered.isGet = request.isGet ∧ answered.register = request.register := by
  have same := answers.command.symm.trans (checkResponse_command accepted)
  obtain ⟨cls, id⟩ := Prod.mk.inj same
  refine ⟨same, ?_, ?_⟩
  · rw [RazerReport.isGet, id, RazerReport.isGet]
  · rw [RazerReport.register, cls, id, RazerReport.register]

namespace Op

variable {σ : Type u} {H : Host σ} {initial : Registers} {arrivals : σ → List Arrival} {op : Op}

/-- The arrival is the operation's own request. -/
def Sent (entry : DeviceEntry) (op : Op) (a : Arrival) : Prop :=
  ∃ request tid, op.request entry = .ok request ∧ a.request = request.stamped tid

/-- What a parser makes of a response is in the arguments. -/
theorem reading_congr (typed : op.typed = true) (entry : DeviceEntry) {r r' : RazerReport} (same : r.arguments = r'.arguments) :
    op.reading entry r = op.reading entry r' := by
  cases op with
  | send _ | transactRaw _ | transact _ => cases typed
  | getDeviceMode => simp only [reading, Parse.deviceMode, same]
  | firmwareVersion => simp only [reading, Parse.firmwareVersion, same]
  | serial => simp only [reading, Parse.serial, same]
  | getBrightness => simp only [reading, Parse.brightness, same]
  | getPollRate => simp only [reading, Parse.pollRateV2, Parse.pollRateLegacy, same]
  | _ => rfl

theorem run_shared (device : H.Serves initial arrivals) (typed : op.typed = true) (s : Session σ) :
    ∃ since, arrivals (op.run H s).2.world = arrivals s.world ++ since ∧
      (∀ a ∈ since, a.own = true → op.Sent s.entry a) ∧
      ∀ v, (op.run H s).1 = .ok v → ∃ request r, op.request s.entry = .ok request ∧
        checkResponse request r = .ok () ∧ op.reading s.entry r = .ok v ∧ Heard initial (arrivals s.world) since r := by
  rw [run_typed typed]
  cases asks : op.request s.entry with
  | error e => exact ⟨[], (List.append_nil _).symm, nofun, nofun⟩
  | ok request =>
    obtain ⟨since, grown, mine, heard⟩ := device.transact (request_typed typed asks).1 s
    refine ⟨since, grown, fun a member own => ⟨request, s.transactionId, asks, mine a member own⟩, fun v answered => ?_⟩
    dsimp only at answered
    rcases played : Session.transact H request s with ⟨e | r, t⟩
    · rw [transacted_of_error played] at answered
      cases answered
    · rw [transacted_of_ok played] at answered
      obtain ⟨judged, hears, _⟩ := heard r (congrArg Prod.fst played)
      exact ⟨request, r, rfl, judged, answered, hears⟩

theorem runs_shared (device : H.Serves initial arrivals) {ops : List Op} (typed : ∀ op ∈ ops, op.typed = true) (s : Session σ) :
    ∃ since, arrivals (Prog.runs (run H) ops s).2.world = arrivals s.world ++ since ∧
      ∀ a ∈ since, a.own = true → ∃ op ∈ ops, op.Sent s.entry a := by
  induction ops generalizing s with
  | nil => exact ⟨[], (List.append_nil _).symm, nofun⟩
  | cons op rest ih =>
    obtain ⟨here, later⟩ := List.forall_mem_cons.mp typed
    obtain ⟨first, grown, own, _⟩ := run_shared device here s
    obtain ⟨second, regrown, owned⟩ := ih later (op.run H s).2
    obtain ⟨entry, _, _⟩ := run_issues (H := H) op s
    rw [entry] at owned
    refine ⟨first ++ second, ?_, fun a member isOwn => ?_⟩
    · rw [← List.append_assoc, ← grown]
      exact regrown
    · rcases List.mem_append.mp member with member | member
      · exact ⟨op, List.mem_cons_self, own a member isOwn⟩
      · obtain ⟨op', among, sent⟩ := owned a member isOwn
        exact ⟨op', List.mem_cons_of_mem _ among, sent⟩

/-- A response to a GET reads as the register did. -/
theorem recalls (typed : op.typed = true) (entry : DeviceEntry) {registers : Registers} {request answered response r : RazerReport}
    (answers : Answers registers answered response) (accepted : checkResponse request response = .ok ())
    (get : request.isGet = true) {args : Arguments} (holds : registers request.register = some args)
    (same : r.arguments = args) : op.reading entry response = op.reading entry r := by
  obtain ⟨_, isGet, register⟩ := answers.alike accepted
  have recalled : response.arguments = args := answers.arguments (isGet.trans get) args (by rw [register, holds])
  exact reading_congr typed entry (recalled.trans same.symm)

/-- What an operation can have written: its own arguments at its own address. -/
theorem Sent.writes {entry : DeviceEntry} {a : Arrival} (sent : op.Sent entry a) (typed : op.typed = true)
    {key : UInt8 × UInt8} {args : Arguments} (writes : a.write = some (key, args)) :
    ∃ request, op.request entry = .ok request ∧ request.isGet = false ∧ op.command entry = key ∧ request.arguments = args := by
  obtain ⟨request, tid, asks, stamped⟩ := sent
  rw [Arrival.write, stamped, RazerReport.write_stamped, RazerReport.write, Option.ite_none_right_eq_some,
    Option.ite_none_left_eq_some, Option.some.injEq, Prod.mk.injEq] at writes
  obtain ⟨_, isSet, command, same⟩ := writes
  exact ⟨request, asks, by simpa using isSet, (request_typed typed asks).2.2.symm.trans command, same⟩

/-- A setter that was told of success has had its register written, if not by itself. -/
theorem acknowledged_writes (typed : op.typed = true) {entry : DeviceEntry} {request response : RazerReport}
    (asks : op.request entry = .ok request) (isSet : request.isGet = false)
    (accepted : checkResponse request response = .ok ()) {start since : List Arrival}
    (heard : Heard initial start since response) : ∃ a ∈ since, ∃ args, a.write = some (op.command entry, args) := by
  obtain ⟨earlier, last, later, rfl, taken, answers⟩ := heard
  obtain ⟨same, kind, _⟩ := answers.alike accepted
  obtain ⟨_, _, command⟩ := request_typed typed asks
  refine ⟨last, by simp, last.request.arguments, ?_⟩
  rw [Arrival.write, if_pos taken, RazerReport.write, if_neg (by rw [kind, isSet]; decide), same, command]

/-- A value that is read was in its register at a moment between the call and its return. -/
theorem answers_a_moment (device : H.Serves initial arrivals) (typed : op.typed = true) {s : Session σ}
    {request : RazerReport} (asks : op.request s.entry = .ok request) (get : request.isGet = true) {v : Reply}
    (answered : (op.run H s).1 = .ok v) :
    ∃ earlier later, earlier ≠ [] ∧ arrivals (op.run H s).2.world = arrivals s.world ++ (earlier ++ later) ∧
      ∀ args, initial.after (arrivals s.world ++ earlier) request.register = some args →
        ∀ r : RazerReport, r.arguments = args → op.reading s.entry r = .ok v := by
  obtain ⟨since, grown, _, heard⟩ := run_shared device typed s
  obtain ⟨_, response, asked, judged, reads, earlier, last, later, rfl, _, answers⟩ := heard v answered
  obtain rfl := Except.ok.inj (asks.symm.trans asked)
  refine ⟨earlier ++ [last], later, by simp, by simpa using grown, fun args holds r same => ?_⟩
  rw [← recalls typed s.entry answers judged get holds same, reads]

end Op

namespace Setting

variable {σ : Type u} {H : Host σ} {initial : Registers} {arrivals : σ → List Arrival} {setting : Setting} {s : Session σ}

/-- After a setter has reported success, and as long as no one else sets the
same thing, a getter answers its value or fails, whatever others do with the device meanwhile. -/
theorem kept_among_others (device : H.Serves initial arrivals) (supported : setting.Supported s.entry)
    (acknowledged : (setting.set.run H s).1 = .ok .done) {ops : List Op}
    (others : ∀ op ∈ ops, op.typed = true ∧ setting.isSetter op = false) {since : List Arrival}
    (grown : arrivals (setting.get.run H (Prog.runs (Op.run H) ops (setting.set.run H s).2).2).2.world =
      arrivals s.world ++ since)
    (alone : ∀ a ∈ since, a.own = false → ∀ args, a.write ≠ some (setting.set.command s.entry, args)) :
    (setting.get.run H (Prog.runs (Op.run H) ops (setting.set.run H s).2).2).1 = .ok setting.value ∨
      ∃ e, (setting.get.run H (Prog.runs (Op.run H) ops (setting.set.run H s).2).2).1 = .error e := by
  obtain ⟨request, asks, isSet, reads⟩ := request_set supported
  obtain ⟨question, asksGet, isGet, address⟩ := request_get supported
  have setterTyped : setting.set.typed = true := by cases setting <;> rfl
  have getterTyped : setting.get.typed = true := by cases setting <;> rfl
  obtain ⟨entrySet, _, _⟩ := Op.run_issues (H := H) setting.set s
  obtain ⟨entryRuns, _, _⟩ := Op.runs_issue (H := H) ops (setting.set.run H s).2
  have still : (Prog.runs (Op.run H) ops (setting.set.run H s).2).2.entry = s.entry := entryRuns.trans entrySet
  -- What arrives during the setter, the run after it, and the getter.
  obtain ⟨first, grown₁, own₁, heard₁⟩ := Op.run_shared device setterTyped s
  obtain ⟨second, grown₂, own₂⟩ := Op.runs_shared device (fun op member => (others op member).1) (setting.set.run H s).2
  obtain ⟨third, grown₃, own₃, heard₃⟩ := Op.run_shared device getterTyped (Prog.runs (Op.run H) ops (setting.set.run H s).2).2
  rw [entrySet] at own₂
  rw [still] at own₃ heard₃
  rw [grown₃, grown₂, grown₁, List.append_assoc, List.append_assoc, List.append_cancel_left_eq] at grown
  subst grown
  have agreed : ∀ a ∈ first ++ (second ++ third), ∀ args, a.write = some (setting.set.command s.entry, args) →
      args = request.arguments := by
    intro a member args writes
    cases own : a.own with
    | false => exact absurd writes (alone a member own args)
    | true =>
      rcases List.mem_append.mp member with member | member
      · obtain ⟨_, asked, _, _, same⟩ := (own₁ a member own).writes setterTyped writes
        rw [← same, Except.ok.inj (asked.symm.trans asks)]
      rcases List.mem_append.mp member with member | member
      · obtain ⟨op, among, sent⟩ := own₂ a member own
        obtain ⟨typed, other⟩ := others op among
        obtain ⟨_, _, _, address, _⟩ := sent.writes typed writes
        exact absurd address (command_other typed other)
      · obtain ⟨_, asked, isSet', _⟩ := (own₃ a member own).writes getterTyped writes
        rw [Except.ok.inj (asked.symm.trans asksGet), isGet] at isSet'
        cases isSet'
  have written : ∃ a ∈ first, a.write = some (setting.set.command s.entry, request.arguments) := by
    obtain ⟨_, response, asked, judged, _, heard⟩ := heard₁ .done acknowledged
    obtain rfl := Except.ok.inj (asks.symm.trans asked)
    obtain ⟨a, member, args, writes⟩ := Op.acknowledged_writes setterTyped asks isSet judged heard
    obtain rfl := agreed a (List.mem_append_left _ member) args writes
    exact ⟨a, member, writes⟩
  cases answered : (setting.get.run H (Prog.runs (Op.run H) ops (setting.set.run H s).2).2).1 with
  | error e => exact Or.inr ⟨e, rfl⟩
  | ok v =>
    obtain ⟨_, response, asked, judged, got, earlier, last, later, rfl, _, answers⟩ := heard₃ v answered
    obtain rfl := Except.ok.inj (asksGet.symm.trans asked)
    rw [grown₂, grown₁, List.append_assoc, List.append_assoc, Registers.after_append] at answers
    have holds : ((initial.after (arrivals s.world)).after (first ++ (second ++ (earlier ++ [last]))))
        question.register = some request.arguments := by
      rw [address]
      refine Registers.after_agreed (fun a member => agreed a ?_) ?_
      · simp only [List.mem_append, List.mem_cons] at member ⊢
        tauto
      · obtain ⟨a, member, writes⟩ := written
        exact ⟨a, List.mem_append_left _ member, writes⟩
    left
    rw [← got, Op.recalls getterTyped s.entry answers judged isGet holds rfl]
    exact reads request rfl

end Setting

/-- What others do around a call of the session, and whether its frame gets lost in it. -/
structure Turn where
  before : List RazerReport := []
  after : List RazerReport := []
  lost : Bool := false

def Turn.arrive (reports : List RazerReport) : List Arrival :=
  reports.map fun report => ⟨false, report, true⟩

theorem Turn.arrive_foreign (reports : List RazerReport) : Foreign (arrive reports) := by
  intro a member
  obtain ⟨_, _, rfl⟩ := List.mem_map.mp member
  rfl

/-- A device with one register for each SET command that answers whoever spoke
last, and a script of what others do with it, one turn for each call. -/
structure SharedFile where
  arrivals : List Arrival
  turns : List Turn

namespace SharedFile

def turn (w : SharedFile) : Turn :=
  w.turns.head?.getD {}

/-- The answer to the last of the arrivals. -/
def reply (heard : List Arrival) : RazerReport :=
  match heard.getLast? with
  | some ⟨_, request, true⟩ =>
    let recalled := if request.isGet then Registers.after (fun _ => none) heard request.register else none
    { request with status := .successful, arguments := recalled.getD request.arguments }
  | _ => { RazerReport.new 0x00 0x00 0x00 with status := .failure }

def host : Host SharedFile where
  setFeature w buf :=
    let own : Arrival := ⟨true, RazerReport.fromBytes (Frame.report buf), !w.turn.lost⟩
    (.ok (), ⟨w.arrivals ++ (Turn.arrive w.turn.before ++ own :: Turn.arrive w.turn.after), w.turns.tail⟩)
  getFeature w _ :=
    let heard := w.arrivals ++ Turn.arrive w.turn.before
    (.ok 91, hidrawBuf (reply heard), ⟨heard ++ Turn.arrive w.turn.after, w.turns.tail⟩)
  sleep w _ := ⟨w.arrivals ++ Turn.arrive w.turn.before, w.turns.tail⟩

theorem reply_answers {heard : List Arrival}
    (success : (RazerReport.fromBytes (reply heard).toBytes).status.isOk = true) :
    ∃ last, heard.getLast? = some last ∧ last.taken = true ∧
      Answers (Registers.after (fun _ => none) heard) last.request (RazerReport.fromBytes (reply heard).toBytes) := by
  rw [RazerReport.fromBytes_toBytes_any] at success ⊢
  unfold reply at success ⊢
  split
  · rename_i request ends
    refine ⟨_, ends, rfl, rfl, rfl, fun get args holds => ?_⟩
    simp only [if_pos get, holds, Option.getD_some]
  · rename_i other
    split at success
    · rename_i request ends
      exact absurd ends (other _ _)
    · cases success

theorem host_serves : host.Serves (fun _ => none) arrivals where
  setFeature w _ := ⟨_, _, _, Turn.arrive_foreign w.turn.before, Turn.arrive_foreign w.turn.after, rfl⟩
  sleep w _ := ⟨_, Turn.arrive_foreign w.turn.before, rfl⟩
  getFeature w buf := by
    refine ⟨_, _, Turn.arrive_foreign w.turn.before, Turn.arrive_foreign w.turn.after, List.append_assoc .., ?_⟩
    intro got _ _ success
    simp only [host, report_hidrawBuf] at success ⊢
    exact reply_answers success

/-- The brightness of the keyboard as another program sets it. -/
def elsewhere (level : UInt8) : RazerReport :=
  (Cmd.setBrightness .varStore .backlight level).withTransactionId 0x3F

/-- A device that others use as well. -/
def amid (entry : DeviceEntry) (turns : List Turn) : Session SharedFile :=
  Session.new entry ⟨[], turns⟩

/-- The other program gets in before the question, so the question hears of its setting. -/
theorem answers_a_moment_dimmed :
    ∃ earlier later, earlier ≠ [] ∧
      arrivals (Op.getBrightness.run host (amid TABLE[2] [{ before := [elsewhere 0x40] }])).2.world = [] ++ (earlier ++ later) ∧
        ∀ args, Registers.after (fun _ => none) ([] ++ earlier) (0x0F, 0x04) = some args →
          ∀ r : RazerReport, r.arguments = args → Op.getBrightness.reading TABLE[2] r = .ok (.byte 0x40) := by
  have answered : (Op.getBrightness.run host (amid TABLE[2] [{ before := [elsewhere 0x40] }])).1 = .ok (.byte 0x40) := by
    decide +kernel
  have asks : Op.getBrightness.request TABLE[2] = .ok (Cmd.getBrightness .varStore .backlight) := rfl
  exact Op.answers_a_moment host_serves rfl asks rfl answered

/-- While the brightness is set and read, another program changes the mode. -/
theorem kept_among_others_busy :
    let s := amid TABLE[2] [{ before := [Cmd.setDeviceMode .driver] }, {}, {}, {}, { after := [Cmd.setDeviceMode .normal] }]
    ((Setting.brightness 0x40).get.run host
        (Prog.runs (Op.run host) [.getDeviceMode] ((Setting.brightness 0x40).set.run host s).2).2).1 = .ok (.byte 0x40) ∨
      ∃ e, ((Setting.brightness 0x40).get.run host
        (Prog.runs (Op.run host) [.getDeviceMode] ((Setting.brightness 0x40).set.run host s).2).2).1 = .error e := by
  intro s
  have supported : (Setting.brightness 0x40).Supported s.entry := ⟨by decide, by decide⟩
  have acknowledged : ((Setting.brightness 0x40).set.run host s).1 = .ok .done := by decide +kernel
  have alone : ∀ a ∈ arrivals ((Setting.brightness 0x40).get.run host
      (Prog.runs (Op.run host) [.getDeviceMode] ((Setting.brightness 0x40).set.run host s).2).2).2.world,
      a.own = false → a.write.map Prod.fst ≠ some (0x0F, 0x04) := by
    decide +kernel
  refine Setting.kept_among_others host_serves supported acknowledged (by decide) (List.nil_append _).symm ?_
  intro a member own args writes
  exact alone a member own (congrArg (Option.map Prod.fst) writes)

end SharedFile

end OpenRazer
