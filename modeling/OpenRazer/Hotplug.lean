import OpenRazer.Razerd

universe u

namespace OpenRazer

/-- The control interface that enumeration selects for an entry. -/
def HidInterface.Controls (i : HidInterface) (entry : DeviceEntry) : Prop :=
  i.vendorId = RAZER_VID ∧ i.productId = entry.pid ∧ i.interfaceNumber = some entry.reportIndex

/-- At the moment of the open the node is not held by another interface of the
same kind of device. -/
def Opening.Unmistaken (o : Opening) : Prop :=
  ∀ i, o.holder = some i → i.vendorId = RAZER_VID → i.productId = o.entry.pid →
    i.interfaceNumber = some o.entry.reportIndex

namespace Host

variable {σ : Type u} {H : Host σ} {R : σ → σ → Prop}

/-- A relation that survives each call on the transport and the clock. -/
structure Moves (H : Host σ) (R : σ → σ → Prop) : Prop where
  stay : ∀ w, R w w
  chain : ∀ {a b c}, R a b → R b c → R a c
  setFeature : ∀ w buf, R w (H.setFeature w buf).2
  getFeature : ∀ w buf, R w (H.getFeature w buf).2.2
  sleep : ∀ w d, R w (H.sleep w d)

theorem Moves.exchange (moves : H.Moves R) (wait : Duration) (buf : Frame) (w : σ) : R w (H.exchange wait buf w).2 := by
  have set := moves.setFeature w buf
  unfold Host.exchange
  rcases call : H.setFeature w buf with ⟨e | _, w₁⟩
  · rw [call] at set
    exact set
  · rw [call] at set
    have get := moves.getFeature (H.sleep w₁ wait) (Vector.replicate 91 0)
    have both := moves.chain (moves.chain set (moves.sleep w₁ wait)) get
    simp only
    rcases answer : H.getFeature (H.sleep w₁ wait) (Vector.replicate 91 0) with ⟨e | got, reply, w₂⟩
    · rw [answer] at both
      exact both
    · rw [answer] at both
      exact both

theorem Moves.retry (moves : H.Moves R) (request : RazerReport) (wait : Duration) (buf : Frame) (n : Nat) (w : σ) :
    R w (H.retry request wait buf n w).2 := by
  induction n generalizing w with
  | zero => exact moves.exchange wait buf w
  | succ n ih =>
    have here := moves.exchange wait buf w
    by_cases rejected : ((H.exchange wait buf w).1.rejection request).isSome
    · rw [retry_again rejected]
      exact moves.chain (moves.chain here (moves.sleep _ _)) (ih _)
    · rw [retry_settled rejected]
      exact here

/-- What survives each call survives a typed operation. -/
theorem Moves.op (moves : H.Moves R) {op : Op} (typed : op.typed = true) (s : Session σ) :
    R s.world (op.run H s).2.world := by
  rw [Op.run_typed typed]
  cases asks : op.request s.entry with
  | error e => exact moves.stay _
  | ok request =>
    obtain ⟨accepted, _⟩ := Op.request_typed typed asks
    simp only [Op.transacted, Session.transact_accepted accepted]
    exact moves.retry ..

theorem Moves.setDeviceMode (moves : H.Moves R) (mode : DeviceMode) (s : Session σ) :
    R s.world (Session.setDeviceMode H mode s).2.world := by
  have moved := moves.op (show (Op.setDeviceMode mode).typed = true from rfl) s
  rw [Op.run, Prog.snd_bind_pure] at moved
  exact moved

theorem Moves.readDevice (moves : H.Moves R) (s : Session σ) : R s.world (Session.readDevice H s).2.world := by
  have version := moves.op (show Op.firmwareVersion.typed = true from rfl) s
  have number := moves.op (show Op.serial.typed = true from rfl) (Session.firmwareVersion H s).2
  have mode := moves.op (show Op.getDeviceMode.typed = true from rfl) (Session.serial H (Session.firmwareVersion H s).2).2
  simp only [Op.run, Prog.snd_bind_pure] at version number mode
  rcases Session.readDevice_cases H s with ⟨_, ends⟩ | ⟨_, _, ends⟩ | ⟨_, _, ends⟩
  · rw [ends]
    exact version
  · rw [ends]
    exact moves.chain version number
  · rw [ends]
    exact moves.chain (moves.chain version number) mode

end Host

namespace World

/-- Nothing is opened and nothing is sent. -/
def Quiet (w w' : World) : Prop :=
  w'.openings = w.openings ∧ w'.delivered = w.delivered

theorem Quiet.rfl {w : World} : Quiet w w :=
  ⟨Eq.refl _, Eq.refl _⟩

theorem Quiet.trans {w w' w'' : World} (first : Quiet w w') (second : Quiet w' w'') : Quiet w w'' :=
  ⟨second.1.trans first.1, second.2.trans first.2⟩

/-- Nothing is opened, and what is sent goes to one interface on behalf of one entry. -/
def Feeds (entry : DeviceEntry) (file : HidInterface) (w w' : World) : Prop :=
  w'.openings = w.openings ∧
    ∃ sent, w'.delivered = w.delivered ++ sent ∧ ∀ d ∈ sent, d.entry = entry ∧ d.reached = file

/-- Each new frame goes to whoever held the node when it was opened for the
entry the frame is meant for, and carries the ids that were asked for. -/
def Traced (w w' : World) : Prop :=
  ∃ opened sent, w'.openings = w.openings ++ opened ∧ w'.delivered = w.delivered ++ sent ∧
    ∀ d ∈ sent, d.reached.vendorId = RAZER_VID ∧ d.reached.productId = d.entry.pid ∧
      ∃ o ∈ opened, o.entry = d.entry ∧ o.holder = some d.reached

theorem Traced.trans {w w' w'' : World} (first : Traced w w') (second : Traced w' w'') : Traced w w'' := by
  obtain ⟨opened, sent, openings, delivered, each⟩ := first
  obtain ⟨opened', sent', openings', delivered', each'⟩ := second
  refine ⟨opened ++ opened', sent ++ sent', ?_, ?_, ?_⟩
  · rw [openings', openings, List.append_assoc]
  · rw [delivered', delivered, List.append_assoc]
  · intro d member
    rcases List.mem_append.mp member with earlier | later
    · obtain ⟨vendor, product, o, opening, meant, held⟩ := each d earlier
      exact ⟨vendor, product, o, List.mem_append_left _ opening, meant, held⟩
    · obtain ⟨vendor, product, o, opening, meant, held⟩ := each' d later
      exact ⟨vendor, product, o, List.mem_append_right _ opening, meant, held⟩

theorem Quiet.traced {w w' : World} (quiet : Quiet w w') : Traced w w' := by
  refine ⟨[], [], ?_, ?_, ?_⟩
  · rw [quiet.1, List.append_nil]
  · rw [quiet.2, List.append_nil]
  · intro d member
    cases member

end World

namespace Kernel

variable (K : Kernel)

theorem host_feeds (entry : DeviceEntry) (dev : HidrawDevice) :
    (K.host entry dev).Moves (World.Feeds entry dev.file) where
  stay w := ⟨rfl, [], (List.append_nil _).symm, fun _ member => by cases member⟩
  chain := by
    rintro a b c ⟨openings, sent, delivered, each⟩ ⟨openings', sent', delivered', each'⟩
    refine ⟨openings'.trans openings, sent ++ sent', ?_, List.forall_mem_append.mpr ⟨each, each'⟩⟩
    rw [delivered', delivered, List.append_assoc]
  setFeature w buf := by
    refine ⟨rfl, [⟨entry, dev.file, buf⟩], rfl, ?_⟩
    intro d member
    obtain rfl := List.mem_singleton.mp member
    exact ⟨rfl, rfl⟩
  getFeature w buf := ⟨rfl, [], (List.append_nil _).symm, fun _ member => by cases member⟩
  sleep w d := ⟨rfl, [], (List.append_nil _).symm, fun _ member => by cases member⟩

theorem findDevice_quiet (vid pid : UInt16) (interface : UInt8) :
    Prog.Moves World.Quiet (findDevice K.sysfs vid pid interface) := by
  have among (names : List String) : Prog.Moves World.Quiet (findAmong K.sysfs vid pid interface names) := by
    induction names with
    | nil => exact Prog.Moves.lift (fun _ => .rfl) _
    | cons name rest ih =>
      refine Prog.Moves.bind (R := World.Quiet) World.Quiet.trans (fun _ => .rfl) ?_
      intro found
      cases found with
      | none => exact ih
      | some info =>
        simp only
        split
        · exact Prog.Moves.lift (fun _ => .rfl) (.ok _)
        · exact ih
  exact Prog.Moves.bind (R := World.Quiet) World.Quiet.trans (fun _ => .rfl) fun names => among _

theorem listRazerNodes_quiet : Prog.Moves World.Quiet (listRazerNodes K.sysfs) := by
  have among (names : List String) : Prog.Moves World.Quiet (listAmong K.sysfs names) := by
    induction names with
    | nil => exact Prog.Moves.lift (fun _ => .rfl) (.ok _)
    | cons name rest ih =>
      refine Prog.Moves.bind (R := World.Quiet) World.Quiet.trans (fun _ => .rfl) ?_
      intro found
      cases found with
      | none => exact ih
      | some info =>
        refine Prog.Moves.bind (R := World.Quiet) World.Quiet.trans ih fun later => ?_
        split
        · exact Prog.Moves.lift (fun _ => .rfl) (.ok _)
        · exact Prog.Moves.lift (fun _ => .rfl) (.ok _)
  exact Prog.Moves.bind (R := World.Quiet) World.Quiet.trans (fun _ => .rfl) fun names => among _

/-- The ioctl reports the ids of the descriptor: the cast undoes the kernel's sign. -/
theorem rawInfo_spec (dev : HidrawDevice) (w : World) :
    (K.rawInfo dev w).2 = w.tick ∧ ∀ info, (K.rawInfo dev w).1 = .ok info →
      info.vendorId = dev.file.vendorId ∧ info.productId = dev.file.productId := by
  cases fault : K.rawInfoErrno w.now with
  | some errno =>
    have run : K.rawInfo dev w = (.error (.io "HIDIOCGRAWINFO" errno), w.tick) := by
      simp only [rawInfo, Prog.bind_apply, hidiocgrawinfo, fault]
    rw [run]
    exact ⟨rfl, fun info answered => by cases answered⟩
  | none =>
    have run : K.rawInfo dev w =
        (.ok ⟨dev.file.bustype, dev.file.vendorId.toInt16.toUInt16, dev.file.productId.toInt16.toUInt16⟩, w.tick) := by
      simp only [rawInfo, Prog.bind_apply, hidiocgrawinfo, fault]
      rfl
    rw [run]
    refine ⟨rfl, fun info answered => ?_⟩
    obtain rfl := Except.ok.inj answered
    exact ⟨UInt16.toUInt16_toInt16 _, UInt16.toUInt16_toInt16 _⟩

theorem openNode_spec (entry : DeviceEntry) (path : String) (w : World) :
    (K.openNode entry path w).2 =
        { w with now := w.now + 1, openings := w.openings ++ [⟨entry, path, K.node w.now path⟩] } ∧
      ∀ dev, (K.openNode entry path w).1 = .ok dev → K.node w.now path = some dev.file := by
  refine ⟨rfl, fun dev opened => ?_⟩
  unfold openNode at opened
  cases refused : K.openErrno w.now path with
  | some errno => simp [refused] at opened
  | none =>
    cases held : K.node w.now path with
    | none => simp [refused, held] at opened
    | some file =>
      simp only [refused, held, Except.ok.injEq] at opened
      subst opened
      rfl

/-- Opening sends nothing, and what it lets through held the node when it was
opened and carries the ids that were asked for. The interface number is not
among the things it looks at. -/
theorem openExpecting_spec (entry : DeviceEntry) (path : String) (vid pid : UInt16) (w : World) :
    let opened := K.openExpecting entry path vid pid w
    opened.2.openings = w.openings ++ [⟨entry, path, K.node w.now path⟩] ∧ opened.2.delivered = w.delivered ∧
      ∀ dev, opened.1 = .ok dev →
        K.node w.now path = some dev.file ∧ dev.file.vendorId = vid ∧ dev.file.productId = pid := by
  intro opened
  obtain ⟨after, held⟩ := K.openNode_spec entry path w
  rcases opens : K.openNode entry path w with ⟨e | dev, w₁⟩
  · have run : opened = (.error e, w₁) := Prog.bind_of_error opens
    rw [opens] at after
    rw [run, show w₁ = _ from after]
    exact ⟨rfl, rfl, fun dev answered => by cases answered⟩
  · rw [opens] at after held
    obtain ⟨ticked, ids⟩ := K.rawInfo_spec dev w₁
    rcases asks : K.rawInfo dev w₁ with ⟨e | info, w₂⟩
    · have run : opened = (.error e, w₂) := (Prog.bind_of_ok opens).trans (Prog.bind_of_error asks)
      rw [asks] at ticked
      rw [run, show w₂ = _ from ticked, show w₁ = _ from after]
      exact ⟨rfl, rfl, fun dev answered => by cases answered⟩
    · rw [asks] at ticked ids
      obtain ⟨vendor, product⟩ := ids info rfl
      by_cases mismatch : info.vendorId ≠ vid ∨ info.productId ≠ pid
      · have run : opened = (.error (.deviceIdentityMismatch dev.path (vid, pid) (info.vendorId, info.productId)), w₂) := by
          refine ((Prog.bind_of_ok opens).trans (Prog.bind_of_ok asks)).trans ?_
          rw [if_pos mismatch]
          rfl
        rw [run, show w₂ = _ from ticked, show w₁ = _ from after]
        exact ⟨rfl, rfl, fun dev answered => by cases answered⟩
      · have run : opened = (.ok dev, w₂) := by
          refine ((Prog.bind_of_ok opens).trans (Prog.bind_of_ok asks)).trans ?_
          rw [if_neg mismatch]
          rfl
        rw [run, show w₂ = _ from ticked, show w₁ = _ from after]
        refine ⟨rfl, rfl, fun dev' answered => ?_⟩
        obtain rfl := Except.ok.inj answered
        push Not at mismatch
        exact ⟨held dev rfl, vendor.symm.trans mismatch.1, product.symm.trans mismatch.2⟩

/-- A session on a node that was just opened for its entry. -/
theorem served {entry : DeviceEntry} {path : String} {w w' w'' : World} {dev : HidrawDevice}
    (opens : K.openExpecting entry path RAZER_VID entry.pid w = (.ok dev, w')) (feeds : World.Feeds entry dev.file w' w'') :
    World.Traced w w'' ∧ ∃ sent, w''.delivered = w.delivered ++ sent ∧ ∀ d ∈ sent, d.entry = entry := by
  obtain ⟨openings, quiet, ids⟩ := K.openExpecting_spec entry path RAZER_VID entry.pid w
  obtain ⟨steady, sent, delivered, each⟩ := feeds
  rw [opens] at openings quiet ids
  obtain ⟨held, vendor, product⟩ := ids dev rfl
  rw [openings] at steady
  rw [quiet] at delivered
  refine ⟨⟨[_], sent, steady, delivered, ?_⟩, sent, delivered, fun d member => (each d member).1⟩
  intro d member
  obtain ⟨meant, reached⟩ := each d member
  rw [meant, reached]
  exact ⟨vendor, product, _, List.mem_singleton_self _, rfl, held⟩

theorem refused_traced {entry : DeviceEntry} {path : String} {vid pid : UInt16} {w w' : World} {e : HidError}
    (opens : K.openExpecting entry path vid pid w = (.error e, w')) :
    World.Traced w w' ∧ w'.delivered = w.delivered := by
  obtain ⟨openings, quiet, _⟩ := K.openExpecting_spec entry path vid pid w
  rw [opens] at openings quiet
  refine ⟨⟨[_], [], openings, by rw [quiet, List.append_nil], ?_⟩, quiet⟩
  intro d member
  cases member

/-- Whatever becomes of one device, its own frames are all that is sent, and
none are unless it was opened. -/
theorem visit_spec (entry : DeviceEntry) (w : World) :
    ∃ v w', K.visit entry entry.pid w = (.ok v, w') ∧ World.Traced w w' ∧
      ∃ sent, w'.delivered = w.delivered ++ sent ∧ (∀ d ∈ sent, d.entry = entry) ∧ (v.opened = false → sent = []) := by
  have located := K.findDevice_quiet RAZER_VID entry.pid entry.reportIndex w
  unfold visit
  rcases finds : findDevice K.sysfs RAZER_VID entry.pid entry.reportIndex w with ⟨e | node, w₁⟩
  · rw [finds] at located
    exact ⟨_, _, rfl, located.traced, [], by rw [located.2, List.append_nil], by simp, fun _ => rfl⟩
  · rw [finds] at located
    simp only
    rcases opens : K.openExpecting entry node.path RAZER_VID entry.pid w₁ with ⟨e | dev, w₂⟩
    · obtain ⟨traced, quiet⟩ := K.refused_traced opens
      refine ⟨_, _, rfl, located.traced.trans traced, [], ?_, by simp, fun _ => rfl⟩
      rw [quiet, located.2, List.append_nil]
    · have feeds := (K.host_feeds entry dev).readDevice (Session.new entry w₂)
      obtain ⟨traced, sent, delivered, each⟩ := K.served opens feeds
      refine ⟨_, _, rfl, located.traced.trans traced, sent, ?_, each, fun closed => by cases closed⟩
      rw [delivered, located.2]

end Kernel

theorem supportedPids_spec (nodes : List HidrawNode) :
    (supportedPids nodes).Nodup ∧ ∀ pid ∈ supportedPids nodes, (lookup pid).isSome := by
  unfold supportedPids
  refine List.foldlRecOn (motive := fun pids : List UInt16 => pids.Nodup ∧ ∀ pid ∈ pids, (lookup pid).isSome) nodes _ ?_ ?_
  · exact ⟨List.nodup_nil, fun _ member => by cases member⟩
  · rintro pids ⟨distinct, known⟩ n _
    split
    · rename_i fresh
      simp only [Bool.and_eq_true, Bool.not_eq_true', List.contains_eq_mem, decide_eq_false_iff_not] at fresh
      constructor
      · exact List.nodup_append.mpr ⟨distinct, List.nodup_singleton _, by
          rintro a old b new rfl
          exact fresh.2 (List.mem_singleton.mp new ▸ old)⟩
      · intro pid member
        rcases List.mem_append.mp member with old | new
        · exact known pid old
        · rw [List.mem_singleton.mp new]
          exact fresh.1
    · exact ⟨distinct, known⟩

theorem Tally.count_spec (tally : Tally) (pid : UInt16) (v : Visit) :
    (tally.count pid v).visits = tally.visits ++ [(pid, v)] ∧
      (tally.count pid v).opened = tally.opened + [(pid, v)].countP fun visited => visited.2.opened := by
  cases v <;> exact ⟨rfl, rfl⟩

theorem lookup_pid {pid : UInt16} {entry : DeviceEntry} (found : lookup pid = some entry) : entry.pid = pid := by
  unfold lookup at found
  simpa using List.find?_some found

namespace Kernel

variable (K : Kernel)

/-- The loop visits each product id it is given, and every frame it sends
belongs to a visit that opened its device. -/
theorem infoLoop_spec (pids : List UInt16) (known : ∀ pid ∈ pids, (lookup pid).isSome) (tally : Tally) (w : World) :
    ∃ tally' w', K.infoLoop pids tally w = (.ok tally', w') ∧ World.Traced w w' ∧
      ∃ visits sent, tally'.visits = tally.visits ++ visits ∧ visits.map Prod.fst = pids ∧
        tally'.opened = tally.opened + visits.countP (fun visited => visited.2.opened) ∧
        w'.delivered = w.delivered ++ sent ∧
        ∀ d ∈ sent, lookup d.entry.pid = some d.entry ∧ ∃ visited ∈ visits, visited.1 = d.entry.pid ∧ visited.2.opened := by
  induction pids generalizing tally w with
  | nil =>
    refine ⟨tally, w, rfl, World.Quiet.rfl.traced, [], [], ?_, rfl, rfl, ?_, ?_⟩
    · exact (List.append_nil _).symm
    · exact (List.append_nil _).symm
    · intro d member
      cases member
  | cons pid rest ih =>
    obtain ⟨here, later⟩ := List.forall_mem_cons.mp known
    obtain ⟨entry, found⟩ := Option.isSome_iff_exists.mp here
    obtain rfl := lookup_pid found
    obtain ⟨v, w₁, visited, traced, sent, delivered, each, closed⟩ := K.visit_spec entry w
    obtain ⟨tally', w', ran, traced', visits, sent', listed, pids, opened, delivered', each'⟩ :=
      ih later (tally.count entry.pid v) w₁
    obtain ⟨counted, tallied⟩ := tally.count_spec entry.pid v
    refine ⟨tally', w', ?_, traced.trans traced', (entry.pid, v) :: visits, sent ++ sent', ?_, ?_, ?_, ?_, ?_⟩
    · simp only [infoLoop, found]
      rw [Prog.bind_of_ok visited]
      exact ran
    · rw [listed, counted, List.append_assoc]
      rfl
    · exact congrArg (entry.pid :: ·) pids
    · rw [opened, tallied, Nat.add_assoc, ← List.countP_append]
      rfl
    · rw [delivered', delivered, List.append_assoc]
    · intro d member
      rcases List.mem_append.mp member with first | second
      · have meant := each d first
        refine ⟨by rw [meant, found], (entry.pid, v), List.mem_cons_self .., by rw [meant], ?_⟩
        by_contra shut
        rw [closed (Bool.eq_false_iff.mpr shut)] at first
        cases first
      · obtain ⟨real, visit, among, same, reached⟩ := each' d second
        exact ⟨real, visit, List.mem_cons_of_mem _ among, same, reached⟩

/-- A run's frames are traced, and none belong to a device the run gave up on. -/
def Accounted (command : Subcommand) (w : World) : Prop :=
  World.Traced w (command.run K w).2 ∧
    ∃ sent, (command.run K w).2.delivered = w.delivered ++ sent ∧ (∀ d ∈ sent, lookup d.entry.pid = some d.entry) ∧
      (∀ e, (command.run K w).1 = .error e → sent = []) ∧
      ∀ outcome, (command.run K w).1 = .ok outcome → ∀ pid ∈ outcome.unreached, ∀ d ∈ sent, d.entry.pid ≠ pid

theorem accounted_of_error {command : Subcommand} {w w' : World} {e : CliError}
    (run : command.run K w = (.error e, w')) (traced : World.Traced w w') (quiet : w'.delivered = w.delivered) :
    K.Accounted command w := by
  unfold Accounted
  rw [run]
  refine ⟨traced, [], by rw [quiet, List.append_nil], by simp, fun _ _ => rfl, fun outcome answered => ?_⟩
  cases answered

/-- The override changes the id on the wire, not the node. -/
theorem trySetting_feeds (entry : DeviceEntry) (mode : DeviceMode) (tidOverride : Option UInt8) (node : HidrawNode)
    (dev : HidrawDevice) (w : World) :
    ∃ trial w', K.trySetting entry mode tidOverride node dev w = (.ok trial, w') ∧ World.Feeds entry dev.file w w' := by
  have feeds := (K.host_feeds entry dev).setDeviceMode mode
  cases tidOverride with
  | none => exact ⟨_, _, rfl, feeds (Session.new entry w)⟩
  | some tid => exact ⟨_, _, rfl, feeds ((Session.new entry w).withTransactionIdOverride tid)⟩

theorem setDeviceMode_accounted (mode : DeviceMode) (tidOverride : Option UInt8) (w : World) :
    K.Accounted (.setDeviceMode mode tidOverride) w := by
  cases found : lookup 0x028D with
  | none =>
    have run : K.deviceModeTrial mode tidOverride w = (.error (.text "BlackWidow V4 Pro not in device table"), w) := by
      simp only [deviceModeTrial, found]
      rfl
    exact K.accounted_of_error (Prog.bind_of_error run) World.Quiet.rfl.traced rfl
  | some entry =>
    have product := lookup_pid found
    have located := K.findDevice_quiet RAZER_VID 0x028D entry.reportIndex w
    rcases finds : findDevice K.sysfs RAZER_VID 0x028D entry.reportIndex w with ⟨e | node, w₁⟩
    · rw [finds] at located
      have run : K.deviceModeTrial mode tidOverride w = (.error (.hid e), w₁) := by
        simp only [deviceModeTrial, found]
        exact Prog.bind_of_error (Prog.mapError_of_error finds)
      exact K.accounted_of_error (Prog.bind_of_error run) located.traced located.2
    · rw [finds] at located
      rcases opens : K.openExpecting entry node.path RAZER_VID 0x028D w₁ with ⟨e | dev, w₂⟩
      · obtain ⟨traced, quiet⟩ := K.refused_traced opens
        have run : K.deviceModeTrial mode tidOverride w = (.error (.hid e), w₂) := by
          simp only [deviceModeTrial, found]
          rw [Prog.bind_of_ok (Prog.mapError_of_ok finds)]
          exact Prog.bind_of_error (Prog.mapError_of_error opens)
        exact K.accounted_of_error (Prog.bind_of_error run) (located.traced.trans traced) (quiet.trans located.2)
      · obtain ⟨trial, w₃, tries, feeds⟩ := K.trySetting_feeds entry mode tidOverride node dev w₂
        have run : K.deviceModeTrial mode tidOverride w = (.ok trial, w₃) := by
          simp only [deviceModeTrial, found]
          rw [Prog.bind_of_ok (Prog.mapError_of_ok finds), Prog.bind_of_ok (Prog.mapError_of_ok opens)]
          exact tries
        rw [← product] at opens
        obtain ⟨traced, sent, delivered, each⟩ := K.served opens feeds
        unfold Accounted
        rw [show Subcommand.run K (.setDeviceMode mode tidOverride) w = _ from Prog.bind_of_ok run]
        refine ⟨located.traced.trans traced, sent, ?_, ?_, ?_, ?_⟩
        · rw [Prog.pure_apply, delivered, located.2]
        · intro d member
          rw [each d member, product, found]
        · intro e failed
          cases failed
        · intro outcome answered pid member
          obtain rfl := Except.ok.inj answered
          cases member

/-- The devices a run gave up on were not opened; the others are other product ids. -/
theorem info_accounted (w : World) : K.Accounted .info w := by
  have listed := K.listRazerNodes_quiet w
  rcases lists : listRazerNodes K.sysfs w with ⟨e | nodes, w₁⟩
  · rw [lists] at listed
    have run : K.info w = (.error (.hid e), w₁) := Prog.bind_of_error (Prog.mapError_of_error lists)
    exact K.accounted_of_error (Prog.bind_of_error run) listed.traced listed.2
  · rw [lists] at listed
    have begins : K.info w = _ := Prog.bind_of_ok (Prog.mapError_of_ok lists)
    obtain ⟨distinct, known⟩ := supportedPids_spec nodes
    by_cases none : (supportedPids nodes).isEmpty
    · rw [if_pos none] at begins
      unfold Accounted
      rw [show Subcommand.run K .info w = _ from Prog.bind_of_ok begins]
      refine ⟨listed.traced, [], by rw [List.append_nil]; exact listed.2, by simp, fun _ _ => rfl, by simp⟩
    · obtain ⟨tally, w', ran, traced, visits, sent, visited, pids, opened, delivered, each⟩ :=
        K.infoLoop_spec _ known {} w₁
      rw [if_neg none, Prog.bind_of_ok ran] at begins
      by_cases gaveUp : tally.opened = 0 ∧ tally.failed > 0
      · rw [if_pos gaveUp] at begins
        have silent : sent = [] := by
          refine List.eq_nil_iff_forall_not_mem.mpr fun d member => ?_
          obtain ⟨_, visit, among, _, reached⟩ := each d member
          have some : 0 < visits.countP fun visited => visited.2.opened :=
            List.countP_pos_iff.mpr ⟨visit, among, reached⟩
          omega
        refine K.accounted_of_error (Prog.bind_of_error begins) (listed.traced.trans traced) ?_
        rw [delivered, silent, listed.2, List.append_nil]
      · rw [if_neg gaveUp] at begins
        unfold Accounted
        rw [show Subcommand.run K .info w = _ from Prog.bind_of_ok begins]
        refine ⟨listed.traced.trans traced, sent, ?_, fun d member => (each d member).1, ?_, ?_⟩
        · rw [Prog.pure_apply, delivered, listed.2]
        · intro e failed
          cases failed
        · intro outcome answered pid member d sending same
          obtain rfl := Except.ok.inj answered
          obtain ⟨_, visit, among, visitedPid, reached⟩ := each d sending
          obtain ⟨missed, shut, missedPid⟩ := List.mem_map.mp member
          obtain ⟨missedAmong, shut⟩ := List.mem_filter.mp shut
          rw [visited] at missedAmong
          rw [← pids] at distinct
          have both : missed = visit := List.inj_on_of_nodup_map distinct missedAmong among
            (missedPid.trans (same.symm.trans visitedPid.symm))
          rw [both, reached] at shut
          cases shut

end Kernel

namespace Subcommand

/-- Every frame of a run reaches the control interface of the table entry it
is meant for; a run that fails has sent nothing at all, and one that gives up on
a device has sent that device nothing. -/
structure ReachesControl (K : Kernel) (command : Subcommand) : Prop where
  control : ∀ d ∈ (command.run K {}).2.delivered, lookup d.entry.pid = some d.entry ∧ d.reached.Controls d.entry
  failed : ∀ e, (command.run K {}).1 = .error e → (command.run K {}).2.delivered = []
  unreached : ∀ outcome, (command.run K {}).1 = .ok outcome →
    ∀ pid ∈ outcome.unreached, ∀ d ∈ (command.run K {}).2.delivered, d.entry.pid ≠ pid

theorem accounted (K : Kernel) (command : Subcommand) : K.Accounted command {} := by
  cases command with
  | info => exact K.info_accounted {}
  | setDeviceMode mode tidOverride => exact K.setDeviceMode_accounted mode tidOverride {}

/-- Whatever comes, goes and changes numbers during a run: as long as no node
is, at the very moment it is opened, held by another interface of the device it
is opened for, nothing is misdirected. -/
theorem reachesControl_of_unmistaken (K : Kernel) (command : Subcommand)
    (sure : ∀ o ∈ (command.run K {}).2.openings, o.Unmistaken) : ReachesControl K command := by
  obtain ⟨⟨opened, sent, openings, delivered, each⟩, sent', delivered', known, failed, unreached⟩ := accounted K command
  rw [delivered] at delivered'
  obtain rfl := List.append_cancel_left delivered'
  have all : (command.run K {}).2.delivered = sent := delivered
  refine ⟨?_, ?_, ?_⟩
  · intro d member
    rw [all] at member
    obtain ⟨vendor, product, o, opening, meant, held⟩ := each d member
    have among : o ∈ (command.run K {}).2.openings := by
      rw [openings]
      exact List.mem_append_right _ opening
    have number := sure o among d.reached held vendor (by rw [meant, product])
    rw [meant] at number
    exact ⟨known d member, vendor, product, number⟩
  · intro e error
    rw [all]
    exact failed e error
  · intro outcome answered pid missed d member
    rw [all] at member
    exact unreached outcome answered pid missed d member

end Subcommand

/-- A system without faults. Sysfs and the nodes tell the truth about the bus
at each moment; a SET is taken, and nothing answers. -/
def Kernel.ofBus (bus : Nat → List (String × HidInterface)) : Kernel where
  names t := .ok ((bus t).map Prod.fst)
  interfaceInfo t name := .ok (((bus t).lookup name).bind HidInterface.info)
  node t path := ((bus t).find? fun held => "/dev/" ++ held.1 == path).map Prod.snd
  openErrno _ _ := none
  rawInfoErrno _ := none
  setFeature _ _ _ := .ok ()
  getFeature _ _ buf := (.ok 0, buf)

def blackwidow (number : UInt8) : HidInterface :=
  { bustype := 0x03, vendorId := 0x1532, productId := 0x028D, usb := some (number, if number = 3 then 0x02 else 0x01) }

def steadyBus (_ : Nat) : List (String × HidInterface) :=
  [("hidraw0", blackwidow 0), ("hidraw3", blackwidow 3)]

/-- The keyboard re-enumerates after `findDevice` has looked at all of it. -/
def renumberedBus (t : Nat) : List (String × HidInterface) :=
  if t < 3 then [("hidraw0", blackwidow 0), ("hidraw3", blackwidow 3)]
  else [("hidraw0", blackwidow 3), ("hidraw3", blackwidow 0)]

namespace Subcommand

theorem reachesControl_of_unmistaken_steady : ReachesControl (Kernel.ofBus steadyBus) (.setDeviceMode .driver none) := by
  refine reachesControl_of_unmistaken _ _ ?_
  have openings : ((Subcommand.setDeviceMode .driver none).run (Kernel.ofBus steadyBus) {}).2.openings =
      [⟨TABLE[2], "/dev/hidraw3", some (blackwidow 3)⟩] := by decide +kernel
  rw [openings]
  intro o member i held _ _
  obtain rfl := List.mem_singleton.mp member
  obtain rfl := Option.some.inj held
  rfl

/-- The node number went to the keyboard's interface 0, which carries the very
ids the open looks at: the mode is written to it, and the run succeeds. -/
theorem renumbered_keyboard_is_written :
    ((run (Kernel.ofBus renumberedBus) (.setDeviceMode .driver none) {}).2.delivered.map
      fun d => (d.entry.pid, d.entry.reportIndex, d.reached.interfaceNumber)) = [(0x028D, 3, some 0)] ∧
    ¬ReachesControl (Kernel.ofBus renumberedBus) (.setDeviceMode .driver none) := by
  have written : ((run (Kernel.ofBus renumberedBus) (.setDeviceMode .driver none) {}).2.delivered.map
      fun d => (d.entry.pid, d.entry.reportIndex, d.reached.interfaceNumber)) = [(0x028D, 3, some 0)] := by decide +kernel
  refine ⟨written, fun reaches => ?_⟩
  obtain ⟨d, member, values⟩ := List.mem_map.mp (written ▸ List.mem_singleton_self _)
  obtain ⟨_, _, _, number⟩ := reaches.control d member
  simp only [Prod.mk.injEq] at values
  rw [values.2.1, values.2.2] at number
  exact absurd number (by decide)

end Subcommand

end OpenRazer
