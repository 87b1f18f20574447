import OpenRazer.Cli

universe u

namespace OpenRazer

/-- At most so many opens and so many frames, each of them like this. -/
def World.Does (opens sends : Nat) (P : Delivery → Prop) (w w' : World) : Prop :=
  ∃ opened frames, w'.openings = w.openings ++ opened ∧ w'.delivered = w.delivered ++ frames ∧
    opened.length ≤ opens ∧ frames.length ≤ sends ∧ ∀ d ∈ frames, P d

namespace World.Does

variable {w w' w'' : World} {o o' n n' : Nat} {P Q : Delivery → Prop}

theorem trans (first : Does o n P w w') (second : Does o' n' P w' w'') : Does (o + o') (n + n') P w w'' := by
  obtain ⟨opened, frames, openings, delivered, few, short, each⟩ := first
  obtain ⟨opened', frames', openings', delivered', few', short', each'⟩ := second
  refine ⟨opened ++ opened', frames ++ frames', ?_, ?_, ?_, ?_, List.forall_mem_append.mpr ⟨each, each'⟩⟩
  · rw [openings', openings, List.append_assoc]
  · rw [delivered', delivered, List.append_assoc]
  · rw [List.length_append]
    omega
  · rw [List.length_append]
    omega

theorem mono (does : Does o n P w w') (more : o ≤ o') (longer : n ≤ n') (weaker : ∀ d, P d → Q d) : Does o' n' Q w w' := by
  obtain ⟨opened, frames, openings, delivered, few, short, each⟩ := does
  exact ⟨opened, frames, openings, delivered, few.trans more, short.trans longer, fun d member => weaker d (each d member)⟩

theorem of_quiet (quiet : w.Quiet w') : Does 0 0 P w w' := by
  refine ⟨[], [], ?_, ?_, Nat.le_refl 0, Nat.le_refl 0, fun d member => by cases member⟩
  · rw [quiet.1, List.append_nil]
  · rw [quiet.2, List.append_nil]

theorem quietly (quiet : w.Quiet w') (does : Does o n P w' w'') : Does o n P w w'' := by
  have both := (of_quiet (P := P) quiet).trans does
  rwa [Nat.zero_add, Nat.zero_add] at both

end World.Does

/-- The three GETs of `readDevice`. -/
def READS : List RazerReport :=
  [Cmd.getFirmwareVersion, Cmd.getSerial, Cmd.getDeviceMode]

/-- The frame went to the device of a table entry. -/
structure Delivery.Placed (d : Delivery) : Prop where
  known : lookup d.entry.pid = some d.entry
  vendor : d.reached.vendorId = RAZER_VID
  product : d.reached.productId = d.entry.pid

/-- A GET of `info`, under the id of the table. -/
def Delivery.Asks (d : Delivery) : Prop :=
  d.Placed ∧ ∃ get ∈ READS, d.buf = hidrawBuf (get.withTransactionId d.entry.transactionId)

/-- The SET of `set-device-mode`. -/
def Delivery.Sets (mode : DeviceMode) (tidOverride : Option UInt8) (d : Delivery) : Prop :=
  d.Placed ∧ d.entry = Desk.keyboard ∧
    d.buf = hidrawBuf ((Cmd.setDeviceMode mode).withTransactionId (tidOverride.getD Desk.keyboard.transactionId))

namespace Kernel

variable (K : Kernel) (entry : DeviceEntry) (dev : HidrawDevice)

theorem exchange_does (wait : Duration) (buf : Frame) (w : World) :
    World.Does 0 1 (· = ⟨entry, dev.file, buf⟩) w ((K.host entry dev).exchange wait buf w).2 := by
  have fed : World.Feeds entry dev.file w _ := (K.host_feeds entry dev).exchange wait buf w
  refine ⟨[], [_], ?_, K.exchange_delivered entry dev wait buf w, Nat.le_refl 0, Nat.le_refl 1, ?_⟩
  · rw [fed.1, List.append_nil]
  · intro d member
    exact List.mem_singleton.mp member

theorem retry_does (request : RazerReport) (wait : Duration) (buf : Frame) (n : Nat) (w : World) :
    World.Does 0 (n + 1) (· = ⟨entry, dev.file, buf⟩) w ((K.host entry dev).retry request wait buf n w).2 := by
  induction n generalizing w with
  | zero => exact K.exchange_does entry dev wait buf w
  | succ n ih =>
    have here := K.exchange_does entry dev wait buf w
    by_cases rejected : (((K.host entry dev).exchange wait buf w).1.rejection request).isSome
    · rw [Host.retry_again rejected]
      have later := ih ((K.host entry dev).sleep ((K.host entry dev).exchange wait buf w).2 RETRY_DELAY)
      have pause : ((K.host entry dev).exchange wait buf w).2.Quiet
          ((K.host entry dev).sleep ((K.host entry dev).exchange wait buf w).2 RETRY_DELAY) := ⟨rfl, rfl⟩
      have both := here.trans (later.quietly pause)
      rwa [Nat.zero_add, Nat.add_comm 1] at both
    · rw [Host.retry_settled rejected]
      exact here.mono (Nat.le_refl 0) (by omega) fun _ same => same

/-- An operation that can only send one report sends it at most five times. -/
theorem op_does {op : Op} (typed : op.typed = true) {request : RazerReport} (s : Session World)
    (only : ∀ r, op.request s.entry = .ok r → r = request) :
    World.Does 0 5 (· = ⟨entry, dev.file, s.wire request⟩) s.world (op.run (K.host entry dev) s).2.world := by
  rw [Op.run_typed typed]
  cases asks : op.request s.entry with
  | error e => exact (World.Does.of_quiet .rfl).mono (Nat.le_refl 0) (Nat.zero_le 5) fun _ same => same
  | ok r =>
    obtain rfl := only r asks
    obtain ⟨accepted, _⟩ := Op.request_typed typed asks
    simp only [Op.transacted, Session.transact_accepted accepted]
    exact K.retry_does entry dev r s.entry.wait (s.wire r) 4 s.world

theorem readDevice_does (s : Session World) :
    World.Does 0 15 (fun d => d.entry = entry ∧ d.reached = dev.file ∧ ∃ get ∈ READS, d.buf = s.wire get)
      s.world (Session.readDevice (K.host entry dev) s).2.world := by
  have asks {t t' : Session World} {get : RazerReport} (among : get ∈ READS) (same : t.wire get = s.wire get)
      (does : World.Does 0 5 (· = ⟨entry, dev.file, t.wire get⟩) t.world t'.world) :
      World.Does 0 5 (fun d => d.entry = entry ∧ d.reached = dev.file ∧ ∃ get ∈ READS, d.buf = s.wire get) t.world t'.world := by
    refine does.mono (Nat.le_refl 0) (Nat.le_refl 5) ?_
    rintro d rfl
    exact ⟨rfl, rfl, get, among, same⟩
  obtain ⟨_, _, tid₁, _⟩ := Session.firmwareVersion_asked (K.host entry dev) s
  obtain ⟨_, _, tid₂, _⟩ := Session.serial_asked (K.host entry dev) (Session.firmwareVersion (K.host entry dev) s).2
  have version := K.op_does entry dev (show Op.firmwareVersion.typed = true from rfl) s
    fun r asks => (Except.ok.inj (Op.asked_of_guarded asks)).symm
  have number := K.op_does entry dev (show Op.serial.typed = true from rfl) (Session.firmwareVersion (K.host entry dev) s).2
    fun r asks => (Except.ok.inj (Op.asked_of_guarded asks)).symm
  have mode := K.op_does entry dev (show Op.getDeviceMode.typed = true from rfl)
    (Session.serial (K.host entry dev) (Session.firmwareVersion (K.host entry dev) s).2).2
    fun r asks => (Except.ok.inj (Op.asked_of_guarded asks)).symm
  simp only [Op.run, Prog.snd_bind_pure] at version number mode
  have first := asks (by simp [READS]) rfl version
  have second := asks (by simp [READS]) (by simp only [Session.wire, tid₁]) number
  have third := asks (by simp [READS]) (by simp only [Session.wire, tid₂, tid₁]) mode
  rcases Session.readDevice_cases (K.host entry dev) s with ⟨_, ends⟩ | ⟨_, _, ends⟩ | ⟨_, _, ends⟩
  · rw [ends]
    exact first.mono (Nat.le_refl 0) (by omega) fun _ like => like
  · rw [ends]
    exact (first.trans second).mono (Nat.le_refl 0) (by omega) fun _ like => like
  · rw [ends]
    exact ((first.trans second).trans third).mono (Nat.le_refl 0) (by omega) fun _ like => like

/-- The SET goes out at most five times, under the id that was asked for or the table's. -/
theorem trySetting_does {mode : DeviceMode} {tidOverride : Option UInt8} {node : HidrawNode} {trial : Trial} {w w' : World}
    (tries : K.trySetting entry mode tidOverride node dev w = (.ok trial, w')) :
    World.Does 0 5 (· = ⟨entry, dev.file,
      hidrawBuf ((Cmd.setDeviceMode mode).withTransactionId (tidOverride.getD entry.transactionId))⟩) w w' := by
  have sets (s : Session World) : World.Does 0 5 (· = ⟨entry, dev.file, s.wire (Cmd.setDeviceMode mode)⟩) s.world
      (Session.setDeviceMode (K.host entry dev) mode s).2.world := by
    have does := K.op_does entry dev (show (Op.setDeviceMode mode).typed = true from rfl) s
      fun r asks => (Except.ok.inj (Op.asked_of_guarded asks)).symm
    simp only [Op.run, Prog.snd_bind_pure] at does
    exact does
  cases tidOverride with
  | none =>
    obtain rfl : (Session.setDeviceMode (K.host entry dev) mode (Session.new entry w)).2.world = w' := congrArg Prod.snd tries
    exact sets (Session.new entry w)
  | some id =>
    obtain rfl : (Session.setDeviceMode (K.host entry dev) mode ((Session.new entry w).withTransactionIdOverride id)).2.world = w' :=
      congrArg Prod.snd tries
    exact sets ((Session.new entry w).withTransactionIdOverride id)

theorem openExpecting_does {P : Delivery → Prop} (path : String) (vid pid : UInt16) (w : World) :
    World.Does 1 0 P w (K.openExpecting entry path vid pid w).2 := by
  obtain ⟨openings, delivered, _⟩ := K.openExpecting_spec entry path vid pid w
  exact ⟨[_], [], openings, by rw [delivered, List.append_nil], Nat.le_refl 1, Nat.le_refl 0, fun d member => by cases member⟩

/-- One turn of `info`: at most one open and fifteen GETs. -/
theorem visit_does {entry : DeviceEntry} (known : lookup entry.pid = some entry) (w : World) :
    World.Does 1 15 Delivery.Asks w (K.visit entry entry.pid w).2 := by
  have located := K.findDevice_quiet RAZER_VID entry.pid entry.reportIndex w
  unfold visit
  rcases finds : findDevice K.sysfs RAZER_VID entry.pid entry.reportIndex w with ⟨e | node, w₁⟩
  · rw [finds] at located
    exact (World.Does.of_quiet located).mono (by omega) (by omega) fun _ like => like
  · rw [finds] at located
    simp only
    have opening := K.openExpecting_does entry (P := Delivery.Asks) node.path RAZER_VID entry.pid w₁
    obtain ⟨_, _, ids⟩ := K.openExpecting_spec entry node.path RAZER_VID entry.pid w₁
    rcases opens : K.openExpecting entry node.path RAZER_VID entry.pid w₁ with ⟨e | dev, w₂⟩
    · rw [opens] at opening
      exact (opening.quietly located).mono (by omega) (by omega) fun _ like => like
    · rw [opens] at opening ids
      obtain ⟨_, vendor, product⟩ := ids dev rfl
      have reads := K.readDevice_does entry dev (Session.new entry w₂)
      refine ((opening.quietly located).trans (reads.mono (Nat.le_refl 0) (Nat.le_refl 15) ?_)).mono (by omega) (by omega)
        fun _ like => like
      rintro d ⟨meant, reached, get, among, buf⟩
      refine ⟨⟨by rw [meant, known], by rw [reached, vendor], by rw [reached, meant, product]⟩, get, among, ?_⟩
      rw [buf, meant]
      rfl

end Kernel

theorem supportedPids_length (nodes : List HidrawNode) : (supportedPids nodes).length ≤ TABLE.length := by
  obtain ⟨distinct, known⟩ := supportedPids_spec nodes
  have among : supportedPids nodes ⊆ TABLE.map DeviceEntry.pid := by
    intro pid member
    obtain ⟨entry, found⟩ := Option.isSome_iff_exists.mp (known pid member)
    rw [← lookup_pid found]
    exact List.mem_map_of_mem (List.mem_of_find?_eq_some found)
  simpa using (List.subperm_of_subset distinct among).length_le

namespace Desk

open SetDeviceMode

variable (desk : Desk)

theorem say_apply (lines : List String) (c : Console) : say lines c = (.ok (), { c with printed := c.printed ++ lines }) := rfl

/-- The loop with its printing is the loop without, and asks each device in turn. -/
theorem infoLoop_does (pids : List UInt16) (known : ∀ pid ∈ pids, (lookup pid).isSome) (tally : Tally) (c : Console) :
    ∃ tally' c', desk.infoLoop pids tally c = (.ok tally', c') ∧
      desk.kernel.infoLoop pids tally c.world = (.ok tally', c'.world) ∧
      World.Does pids.length (15 * pids.length) Delivery.Asks c.world c'.world := by
  induction pids generalizing tally c with
  | nil => exact ⟨tally, c, rfl, rfl, .of_quiet .rfl⟩
  | cons pid rest ih =>
    obtain ⟨here, later⟩ := List.forall_mem_cons.mp known
    obtain ⟨entry, found⟩ := Option.isSome_iff_exists.mp here
    obtain rfl := lookup_pid found
    have does := desk.kernel.visit_does found c.world
    obtain ⟨v, w, visited, _⟩ := desk.kernel.visit_spec entry c.world
    rw [visited] at does
    obtain ⟨tally', c', ran, ran', does'⟩ :=
      ih later (tally.count entry.pid v) { c with world := w, printed := c.printed ++ Info.visitLines entry v }
    refine ⟨tally', c', ?_, ?_, (does.trans does').mono ?_ ?_ fun _ like => like⟩
    · simp only [infoLoop, found]
      rw [Prog.bind_of_ok (device_of_ok visited), Prog.bind_of_ok (say_apply ..)]
      exact ran
    · simp only [Kernel.infoLoop, found]
      rw [Prog.bind_of_ok visited]
      exact ran'
    · rw [List.length_cons]
      omega
    · rw [List.length_cons]
      omega

/-- `info` with its printing is `info` without, and only asks. -/
theorem info_does (c : Console) :
    World.Does TABLE.length (15 * TABLE.length) Delivery.Asks c.world (desk.info c).2.world ∧
      (desk.info c).2.world = (desk.kernel.info c.world).2 ∧
      (∀ e, (desk.info c).1 = .error e ↔ (desk.kernel.info c.world).1 = .error e) ∧
      ∀ message, (desk.info c).1 ≠ .error (.panicked message) := by
  have listed := desk.kernel.listRazerNodes_quiet c.world
  rcases lists : listRazerNodes desk.kernel.sysfs c.world with ⟨e | nodes, w⟩
  · rw [lists] at listed
    have run : desk.info c = _ := Prog.bind_of_error (device_of_error (Prog.mapError_of_error lists))
    have run' : desk.kernel.info c.world = _ := Prog.bind_of_error (Prog.mapError_of_error lists)
    rw [run, run']
    refine ⟨(World.Does.of_quiet listed).mono (Nat.zero_le _) (Nat.zero_le _) fun _ like => like, rfl, fun _ => by simp, ?_⟩
    simp
  · rw [lists] at listed
    have begins : desk.info c = _ := Prog.bind_of_ok (device_of_ok (Prog.mapError_of_ok lists))
    have begins' : desk.kernel.info c.world = _ := Prog.bind_of_ok (Prog.mapError_of_ok lists)
    by_cases none : (supportedPids nodes).isEmpty
    · rw [if_pos none] at begins begins'
      rw [begins, begins', say_apply]
      refine ⟨(World.Does.of_quiet listed).mono (Nat.zero_le _) (Nat.zero_le _) fun _ like => like, rfl, fun _ => by simp, ?_⟩
      simp
    · obtain ⟨_, known⟩ := supportedPids_spec nodes
      have few := supportedPids_length nodes
      obtain ⟨tally, c', ran, ran', does⟩ := desk.infoLoop_does (supportedPids nodes) known {} { c with world := w }
      rw [if_neg none, Prog.bind_of_ok ran, Prog.bind_of_ok (say_apply ..)] at begins
      rw [if_neg none, Prog.bind_of_ok ran'] at begins'
      have bounded := (does.quietly listed).mono few (Nat.mul_le_mul_left 15 few) fun _ like => like
      rw [begins, begins']
      by_cases gaveUp : tally.opened = 0 ∧ tally.failed > 0
      · rw [if_pos gaveUp, if_pos gaveUp]
        exact ⟨bounded, rfl, fun _ => by simp, by simp⟩
      · rw [if_neg gaveUp, if_neg gaveUp]
        exact ⟨bounded, rfl, fun _ => by simp, by simp⟩

theorem list_does {P : Delivery → Prop} (c : Console) : World.Does 0 0 P c.world (desk.list c).2.world := by
  have listed := desk.kernel.listRazerNodes_quiet c.world
  rcases lists : listRazerNodes desk.kernel.sysfs c.world with ⟨e | nodes, w⟩
  · rw [lists] at listed
    have run : desk.list c = _ := Prog.bind_of_error (device_of_error (Prog.mapError_of_error lists))
    rw [run]
    exact .of_quiet listed
  · rw [lists] at listed
    have run : desk.list c = _ := Prog.bind_of_ok (device_of_ok (Prog.mapError_of_ok lists))
    rw [run]
    split
    · exact .of_quiet listed
    · exact .of_quiet listed

theorem experiment_does (mode : DeviceMode) (tidOverride : Option UInt8) (c : Console) :
    World.Does 1 5 (Delivery.Sets mode tidOverride) c.world (desk.experiment mode tidOverride c).2.world := by
  have ran : desk.Ran mode tidOverride c _ _ := experiment_ran mode tidOverride c
  have located := desk.kernel.findDevice_quiet RAZER_VID 0x028D keyboard.reportIndex c.world
  generalize (desk.experiment mode tidOverride c).1 = result at ran
  generalize (desk.experiment mode tidOverride c).2 = c' at ran ⊢
  cases ran with
  | unlocated finds =>
    rw [finds] at located
    exact (World.Does.of_quiet located).mono (by omega) (by omega) fun _ like => like
  | @refused node e w w' c' finds opens world printed =>
    have opening := desk.kernel.openExpecting_does keyboard (P := Delivery.Sets mode tidOverride) node.path RAZER_VID 0x028D w
    rw [finds] at located
    rw [opens] at opening
    rw [world]
    exact (opening.quietly located).mono (by omega) (by omega) fun _ like => like
  | @tried node dev trial verdict w w' c' finds opens tries printed judged =>
    have opening := desk.kernel.openExpecting_does keyboard (P := Delivery.Sets mode tidOverride) node.path RAZER_VID 0x028D w
    obtain ⟨_, _, ids⟩ := desk.kernel.openExpecting_spec keyboard node.path RAZER_VID 0x028D w
    rw [finds] at located
    rw [opens] at opening ids
    obtain ⟨_, vendor, product⟩ := ids dev rfl
    have sets := (desk.kernel.trySetting_does keyboard dev tries).mono (Nat.le_refl 0) (Nat.le_refl 5)
      (Q := Delivery.Sets mode tidOverride) (by
        rintro d rfl
        exact ⟨⟨lookup_keyboard, vendor, product⟩, rfl, rfl⟩)
    exact ((opening.quietly located).trans sets).mono (by omega) (by omega) fun _ like => like

theorem ended_console {α : Type} (run : Except CliError α × Console) : (ended run).console = run.2 := by
  obtain ⟨result, c⟩ := run
  cases result with
  | ok _ => rfl
  | error e => cases e <;> rfl

/-- A GET carries the bit that makes it one. -/
theorem asks_get {d : Delivery} (asks : d.Asks) : d.buf.get 8 &&& 0x80 ≠ 0 := by
  obtain ⟨_, get, among, buf⟩ := asks
  have byte : d.buf.get 8 = get.commandId := by
    rw [buf]
    exact (hidrawBuf_succ _ (i := 7) (by decide)).trans (RazerReport.toBytes_layout _ (by decide) (by decide))
  have bit : ∀ get ∈ READS, get.commandId &&& 0x80 ≠ 0 := by decide
  rw [byte]
  exact bit get among

/-- What a command line entitles the program to do to the devices: how often
it may open one, how many frames it may send, and which. -/
inductive Licensed : List String → Nat → Nat → (Delivery → Prop) → Prop
  | nothing {args} : Licensed args 0 0 fun _ => False
  | read {rest} : Licensed ("info" :: rest) 3 45 Delivery.Asks
  | write {rest mode tidOverride} : Accepted rest mode tidOverride →
      Licensed ("set-device-mode" :: rest) 1 5 (Delivery.Sets mode tidOverride)

/-- Whatever the devices and the system do, the program keeps to what the
command line says, and only a confirmed `set-device-mode` says to write. -/
theorem main_writes_only_when_told (args : List String) (c : Console) :
    ∃ opens sends P, Licensed args opens sends P ∧ World.Does opens sends P c.world (desk.main args c).console.world ∧
      ∀ d, P d → d.buf.get 8 &&& 0x80 = 0 → args.head? = some "set-device-mode" ∧ CONFIRMATION ∈ args := by
  have idle {w : World} (quiet : c.world.Quiet w) : ∃ opens sends P, Licensed args opens sends P ∧
      World.Does opens sends P c.world w ∧
      ∀ d, P d → d.buf.get 8 &&& 0x80 = 0 → args.head? = some "set-device-mode" ∧ CONFIRMATION ∈ args :=
    ⟨0, 0, _, .nothing, .of_quiet quiet, fun _ absurd => absurd.elim⟩
  unfold main
  split
  · rw [ended_console]
    exact ⟨3, 45, _, .read, (desk.info_does c).1, fun d asks write => absurd write (asks_get asks)⟩
  · rw [ended_console]
    exact ⟨0, 0, _, .nothing, desk.list_does c, fun _ absurd => absurd.elim⟩
  · rename_i rest
    rw [ended_console]
    by_cases accepted : ∃ mode tidOverride, Accepted rest mode tidOverride
    · obtain ⟨mode, tidOverride, accepted⟩ := accepted
      rw [desk.setDeviceMode_accepted accepted]
      exact ⟨1, 5, _, .write accepted, desk.experiment_does mode tidOverride c,
        fun d _ _ => ⟨rfl, List.mem_cons_of_mem _ accepted.confirmed⟩⟩
    · obtain ⟨e, unchanged⟩ := desk.setDeviceMode_refused accepted
      rw [unchanged]
      exact idle .rfl
  · exact idle .rfl
  · exact idle .rfl
  · exact idle .rfl

/-- Each turn of the loop counts once. -/
theorem infoLoop_counts {K : Kernel} {pids : List UInt16} {tally tally' : Tally} {w w' : World}
    (ran : K.infoLoop pids tally w = (.ok tally', w')) :
    tally'.opened + tally'.failed = tally.opened + tally.failed + pids.length := by
  induction pids generalizing tally w with
  | nil =>
    cases ran
    rfl
  | cons pid rest ih =>
    rw [Kernel.infoLoop] at ran
    cases found : lookup pid with
    | none =>
      rw [found] at ran
      cases ran
    | some entry =>
      obtain rfl := lookup_pid found
      obtain ⟨v, w₁, visited, _⟩ := K.visit_spec entry w
      rw [found] at ran
      simp only at ran
      rw [Prog.bind_of_ok visited] at ran
      have counted : (tally.count entry.pid v).opened + (tally.count entry.pid v).failed = tally.opened + tally.failed + 1 := by
        cases v with
        | notLocated _ | notOpened _ _ => simp only [Tally.count, Nat.add_assoc]
        | read _ _ =>
          simp only [Tally.count]
          omega
      rw [ih ran, counted, List.length_cons]
      omega

/-- What a run has to come to for the exit code to be zero. -/
inductive Succeeds (desk : Desk) (w : World) (args : List String) : Prop
  | version {flag} : args.head? = some flag → flag ∈ ["--version", "-V"] → Succeeds desk w args
  | listed {nodes} : args.head? = some "list" → (listRazerNodes desk.kernel.sysfs w).1 = .ok nodes → Succeeds desk w args
  | unsupported {nodes} : args.head? = some "info" → (listRazerNodes desk.kernel.sysfs w).1 = .ok nodes →
      supportedPids nodes = [] → Succeeds desk w args
  | reached {nodes tally w₁ w₂} : args.head? = some "info" → listRazerNodes desk.kernel.sysfs w = (.ok nodes, w₁) →
      desk.kernel.infoLoop (supportedPids nodes) {} w₁ = (.ok tally, w₂) → (∃ v ∈ tally.visits, v.2.opened = true) →
      Succeeds desk w args
  | tried {mode tidOverride node w₁ dev w₂} : args.head? = some "set-device-mode" → Accepted args.tail mode tidOverride →
      findDevice desk.kernel.sysfs RAZER_VID 0x028D keyboard.reportIndex w = (.ok node, w₁) →
      desk.kernel.openExpecting keyboard node.path RAZER_VID 0x028D w₁ = (.ok dev, w₂) → Succeeds desk w args

/-- What is wrong with the arguments is said in words. -/
theorem arguments_error {args : List String} {e : CliError} (refused : arguments args = .error e) : ∃ message, e = .text message := by
  have taken {raw : String} {e : CliError} (bad : transactionId raw = .error e) : ∃ message, e = .text message := by
    unfold transactionId at bad
    split at bad
    · exact ⟨_, (Except.error.inj bad).symm⟩
    · simp only at bad
      split at bad
      · exact ⟨_, (Except.error.inj bad).symm⟩
      · split at bad
        · exact ⟨_, (Except.error.inj bad).symm⟩
        · cases bad
  rcases Prog.except_bind_error.mp refused with bad | ⟨_, _, refused⟩
  · unfold SetDeviceMode.mode at bad
    split at bad
    · cases bad
    · cases bad
    · exact ⟨_, (Except.error.inj bad).symm⟩
  rcases Prog.except_bind_error.mp refused with bad | ⟨_, _, refused⟩
  · unfold confirmation at bad
    split at bad
    · cases bad
    · exact ⟨_, (Except.error.inj bad).symm⟩
  rcases Prog.except_bind_error.mp refused with bad | ⟨_, _, done⟩
  · unfold tidOverride at bad
    split at bad
    · cases bad
    · split at bad
      · exact ⟨_, (Except.error.inj bad).symm⟩
      · rename_i raw _
        cases value : transactionId raw with
        | ok id =>
          rw [value] at bad
          cases bad
        | error e' =>
          rw [value] at bad
          obtain rfl := Except.error.inj bad
          exact taken value
  · cases done

/-- Of an error the process says so and fails; a panic is all its own. -/
theorem ended_spec {α : Type} (run : Except CliError α × Console) (calm : ∀ message, run.1 ≠ .error (.panicked message)) :
    ((ended run).code = .success ↔ ∃ a, run.1 = .ok a) ∧ (ended run).code ≠ .panicked ∧
      ((ended run).code = .success ↔ (ended run).stderr = []) := by
  obtain ⟨result, c⟩ := run
  cases result with
  | ok a => simp [ended]
  | error e =>
    cases e with
    | hid e | text message => simp [ended]
    | panicked message => exact absurd rfl (calm message)

theorem list_ends (c : Console) : ((∃ done, (desk.list c).1 = .ok done) ↔
      ∃ nodes, (listRazerNodes desk.kernel.sysfs c.world).1 = .ok nodes) ∧
    ∀ message, (desk.list c).1 ≠ .error (.panicked message) := by
  rcases lists : listRazerNodes desk.kernel.sysfs c.world with ⟨e | nodes, w⟩
  · have run : desk.list c = _ := Prog.bind_of_error (device_of_error (Prog.mapError_of_error lists))
    rw [run]
    simp
  · have run : desk.list c = _ := Prog.bind_of_ok (device_of_ok (Prog.mapError_of_ok lists))
    rw [run]
    split <;> simp [say_apply]

theorem info_ends (c : Console) : (∃ done, (desk.info c).1 = .ok done) ↔
    ∃ nodes w₁, listRazerNodes desk.kernel.sysfs c.world = (.ok nodes, w₁) ∧ (supportedPids nodes = [] ∨
      ∃ tally w₂, desk.kernel.infoLoop (supportedPids nodes) {} w₁ = (.ok tally, w₂) ∧ ∃ v ∈ tally.visits, v.2.opened = true) := by
  rcases lists : listRazerNodes desk.kernel.sysfs c.world with ⟨e | nodes, w⟩
  · have run : desk.info c = _ := Prog.bind_of_error (device_of_error (Prog.mapError_of_error lists))
    rw [run]
    simp
  · have begins : desk.info c = _ := Prog.bind_of_ok (device_of_ok (Prog.mapError_of_ok lists))
    obtain ⟨_, known⟩ := supportedPids_spec nodes
    obtain ⟨tally, c', ran, ran', _⟩ := desk.infoLoop_does (supportedPids nodes) known {} { c with world := w }
    obtain ⟨tally', w', again, _, visits, _, listed, _, opened, _⟩ := desk.kernel.infoLoop_spec (supportedPids nodes) known {} w
    have same := again.symm.trans ran'
    simp only [Prod.mk.injEq, Except.ok.injEq] at same
    rw [same.1] at listed opened
    have counted := infoLoop_counts ran'
    have visited : (∃ v ∈ tally.visits, v.2.opened = true) ↔ 0 < tally.opened := by
      rw [listed, opened, Nat.zero_add, List.countP_pos_iff]
      rfl
    have only : (∃ nodes' w₁, (Except.ok nodes, w) = ((Except.ok nodes' : Except HidError _), w₁) ∧ (supportedPids nodes' = [] ∨
        ∃ tally w₂, desk.kernel.infoLoop (supportedPids nodes') {} w₁ = (.ok tally, w₂) ∧ ∃ v ∈ tally.visits, v.2.opened = true)) ↔
        supportedPids nodes = [] ∨ 0 < tally.opened := by
      rw [← visited]
      constructor
      · rintro ⟨nodes', w₁, same, none | ⟨tally', w₂, ran'', reached⟩⟩
        · cases same
          exact Or.inl none
        · cases same
          obtain ⟨found, _⟩ := Prod.mk.inj (ran'.symm.trans ran'')
          rw [Except.ok.inj found]
          exact Or.inr reached
      · rintro (none | reached)
        · exact ⟨nodes, w, rfl, Or.inl none⟩
        · exact ⟨nodes, w, rfl, Or.inr ⟨tally, _, ran', reached⟩⟩
    rw [only]
    by_cases none : supportedPids nodes = []
    · rw [if_pos (List.isEmpty_iff.mpr none)] at begins
      rw [begins]
      exact ⟨fun _ => Or.inl none, fun _ => ⟨(), rfl⟩⟩
    · rw [if_neg (mt List.isEmpty_iff.mp none), Prog.bind_of_ok ran, Prog.bind_of_ok (say_apply ..)] at begins
      have some := List.length_pos_iff.mpr none
      have zero : ({} : Tally).opened = 0 ∧ ({} : Tally).failed = 0 := ⟨rfl, rfl⟩
      rw [begins]
      by_cases gaveUp : tally.opened = 0 ∧ tally.failed > 0
      · rw [if_pos gaveUp]
        constructor
        · rintro ⟨done, failed⟩
          cases failed
        · rintro (empty | reached)
          · exact absurd empty none
          · omega
      · rw [if_neg gaveUp]
        exact ⟨fun _ => Or.inr (by omega), fun _ => ⟨(), rfl⟩⟩

/-- A trial counts as a success once the keyboard is found and opened. -/
theorem setDeviceMode_ends (args : List String) (c : Console) :
    ((∃ verdict, (desk.setDeviceMode args c).1 = .ok verdict) ↔ ∃ mode tidOverride node w₁ dev w₂, Accepted args mode tidOverride ∧
      findDevice desk.kernel.sysfs RAZER_VID 0x028D keyboard.reportIndex c.world = (.ok node, w₁) ∧
      desk.kernel.openExpecting keyboard node.path RAZER_VID 0x028D w₁ = (.ok dev, w₂)) ∧
    ∀ message, (desk.setDeviceMode args c).1 ≠ .error (.panicked message) := by
  by_cases accepted : ∃ mode tidOverride, Accepted args mode tidOverride
  · obtain ⟨mode, tidOverride, accepted⟩ := accepted
    rw [desk.setDeviceMode_accepted accepted]
    have ran : desk.Ran mode tidOverride c _ _ := experiment_ran mode tidOverride c
    generalize (desk.experiment mode tidOverride c).1 = result at ran ⊢
    generalize (desk.experiment mode tidOverride c).2 = c' at ran
    cases ran with
    | unlocated finds =>
      refine ⟨⟨?_, ?_⟩, by simp⟩
      · rintro ⟨_, failed⟩
        cases failed
      · rintro ⟨_, _, node, w₁, _, _, _, found, _⟩
        rw [finds] at found
        cases found
    | refused finds opens world printed =>
      refine ⟨⟨?_, ?_⟩, by simp⟩
      · rintro ⟨_, failed⟩
        cases failed
      · rintro ⟨_, _, node, w₁, _, _, _, found, opened⟩
        rw [finds] at found
        cases found
        rw [opens] at opened
        cases opened
    | tried finds opens tries printed judged =>
      exact ⟨⟨fun _ => ⟨mode, tidOverride, _, _, _, _, accepted, finds, opens⟩, fun _ => ⟨_, rfl⟩⟩, by simp⟩
  · cases refused : arguments args with
    | ok parsed => exact absurd ⟨parsed.1, parsed.2, arguments_eq_ok.mp refused⟩ accepted
    | error e =>
      obtain ⟨message, rfl⟩ := arguments_error refused
      have run : desk.setDeviceMode args c = (.error (.text message), c) := by
        rw [setDeviceMode, refused]
        rfl
      rw [run]
      refine ⟨⟨?_, ?_⟩, by simp⟩
      · rintro ⟨_, failed⟩
        cases failed
      · rintro ⟨mode, tidOverride, _, _, _, _, taken, _⟩
        exact absurd ⟨mode, tidOverride, taken⟩ accepted

/-- The exit code, exactly. It says nothing of what the SET of a trial came to,
nor of a keyboard that fell off the bus under it. -/
theorem main_exit_code (args : List String) (c : Console) :
    ((desk.main args c).code = .success ↔ Succeeds desk c.world args) ∧
      (desk.main args c).code ≠ .panicked ∧ ((desk.main args c).code = .success ↔ (desk.main args c).stderr = []) := by
  unfold main
  split
  · rename_i rest
    obtain ⟨code, calm, silent⟩ := ended_spec (desk.info c) (desk.info_does c).2.2.2
    refine ⟨code.trans ((desk.info_ends c).trans ?_), calm, silent⟩
    constructor
    · rintro ⟨nodes, w₁, lists, none | ⟨tally, w₂, ran, reached⟩⟩
      · exact .unsupported rfl (congrArg Prod.fst lists) none
      · exact .reached rfl lists ran reached
    · intro succeeds
      cases succeeds with
      | version head flag => simp [← Option.some.inj head] at flag
      | listed head _ | tried head _ _ _ => simp at head
      | unsupported _ lists none => exact ⟨_, _, Prog.run_of_fst lists, Or.inl none⟩
      | reached _ lists ran reached => exact ⟨_, _, lists, Or.inr ⟨_, _, ran, reached⟩⟩
  · rename_i rest
    obtain ⟨ends, calm⟩ := desk.list_ends c
    obtain ⟨code, calm, silent⟩ := ended_spec (desk.list c) calm
    refine ⟨code.trans (ends.trans ?_), calm, silent⟩
    constructor
    · rintro ⟨nodes, lists⟩
      exact .listed rfl lists
    · intro succeeds
      cases succeeds with
      | version head flag => simp [← Option.some.inj head] at flag
      | unsupported head _ _ | reached head _ _ _ | tried head _ _ _ => simp at head
      | listed _ lists => exact ⟨_, lists⟩
  · rename_i rest
    obtain ⟨ends, calm⟩ := desk.setDeviceMode_ends rest c
    obtain ⟨code, calm, silent⟩ := ended_spec (desk.setDeviceMode rest c) calm
    refine ⟨code.trans (ends.trans ?_), calm, silent⟩
    constructor
    · rintro ⟨mode, tidOverride, node, w₁, dev, w₂, accepted, finds, opens⟩
      exact .tried rfl accepted finds opens
    · intro succeeds
      cases succeeds with
      | version head flag => simp [← Option.some.inj head] at flag
      | listed head _ | unsupported head _ _ | reached head _ _ _ => simp at head
      | tried _ accepted finds opens => exact ⟨_, _, _, _, _, _, accepted, finds, opens⟩
  · exact ⟨⟨fun _ => .version rfl (by simp), fun _ => rfl⟩, by simp, by simp⟩
  · exact ⟨⟨fun _ => .version rfl (by simp), fun _ => rfl⟩, by simp, by simp⟩
  · rename_i noInfo noList noSet noVersion noV
    refine ⟨⟨fun success => (by cases success), ?_⟩, by simp, by simp⟩
    have starts {word : String} (head : args.head? = some word) : args = word :: args.tail := (List.cons_head?_tail head).symm
    intro succeeds
    cases succeeds with
    | version head flag =>
      simp only [List.mem_cons, List.not_mem_nil, or_false] at flag
      rcases flag with rfl | rfl
      · exact absurd (starts head) (noVersion _)
      · exact absurd (starts head) (noV _)
    | listed head _ => exact absurd (starts head) (noList _)
    | unsupported head _ _ | reached head _ _ _ => exact absurd (starts head) (noInfo _)
    | tried head _ _ _ => exact absurd (starts head) (noSet _)

end Desk

end OpenRazer
