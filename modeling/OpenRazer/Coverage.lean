import OpenRazer.Hotplug
import OpenRazer.Lookup

namespace OpenRazer

/-- Attempts on devices one after another, with nothing opened or sent in
between: the open is refused, or the device is read from end to end. -/
inductive Interrogated (K : Kernel) : World → List (HidrawNode × Option DeviceReport) → World → Prop
  | done {w w' : World} : w.Quiet w' → Interrogated K w [] w'
  | refused {w w₁ w₂ w' : World} {node entry e tries} : w.Quiet w₁ → lookup node.info.productId = some entry →
      K.openExpecting entry node.path RAZER_VID entry.pid w₁ = (.error e, w₂) → Interrogated K w₂ tries w' →
      Interrogated K w ((node, none) :: tries) w'
  | read {w w₁ w₂ w' : World} {node entry dev report session tries} : w.Quiet w₁ →
      lookup node.info.productId = some entry → K.openExpecting entry node.path RAZER_VID entry.pid w₁ = (.ok dev, w₂) →
      Session.readDevice (K.host entry dev) (Session.new entry w₂) = (report, session) →
      Interrogated K session.world tries w' → Interrogated K w ((node, some report) :: tries) w'

namespace Interrogated

variable {K : Kernel} {w w' : World} {tries : List (HidrawNode × Option DeviceReport)}

theorem quietly {w₀ : World} (quiet : w₀.Quiet w) (run : Interrogated K w tries w') : Interrogated K w₀ tries w' := by
  cases run with
  | done quiet' => exact .done (quiet.trans quiet')
  | refused quiet' known opens later => exact .refused (quiet.trans quiet') known opens later
  | read quiet' known opens reads later => exact .read (quiet.trans quiet') known opens reads later

/-- The attempts are the opens that the system has seen. -/
theorem openings (run : Interrogated K w tries w') :
    ∃ opened, w'.openings = w.openings ++ opened ∧ opened.map Opening.path = tries.map (·.1.path) := by
  induction run with
  | done quiet => exact ⟨[], by rw [quiet.1, List.append_nil], rfl⟩
  | @refused w w₁ w₂ w' node entry e tries quiet _ opens _ ih =>
    obtain ⟨opened, grown, paths⟩ := ih
    obtain ⟨here, _, _⟩ := K.openExpecting_spec entry node.path RAZER_VID entry.pid w₁
    rw [opens] at here
    refine ⟨⟨entry, node.path, K.node w₁.now node.path⟩ :: opened, ?_, congrArg (node.path :: ·) paths⟩
    rw [grown, here, quiet.1, List.append_assoc]
    rfl
  | @read w w₁ w₂ w' node entry dev report session tries quiet _ opens reads _ ih =>
    obtain ⟨opened, grown, paths⟩ := ih
    obtain ⟨here, _, _⟩ := K.openExpecting_spec entry node.path RAZER_VID entry.pid w₁
    have fed := (K.host_feeds entry dev).readDevice (Session.new entry w₂)
    rw [opens] at here
    rw [reads] at fed
    have same : session.world.openings = w₂.openings := fed.1
    refine ⟨⟨entry, node.path, K.node w₁.now node.path⟩ :: opened, ?_, congrArg (node.path :: ·) paths⟩
    rw [grown, same, here, quiet.1, List.append_assoc]
    rfl

/-- Two accounts of one run try the same paths. -/
theorem paths {tries' : List (HidrawNode × Option DeviceReport)} (run : Interrogated K w tries w')
    (run' : Interrogated K w tries' w') : tries.map (·.1.path) = tries'.map (·.1.path) := by
  obtain ⟨opened, grown, paths⟩ := run.openings
  obtain ⟨opened', grown', paths'⟩ := run'.openings
  rw [grown] at grown'
  obtain rfl := List.append_cancel_left grown'
  exact paths.symm.trans paths'

end Interrogated

section

variable (names : List String) (infos : String → Except HidError (Option UsbInterfaceInfo))

/-- A listed node that is the control interface of a device in the table. -/
structure Attached (node : HidrawNode) : Prop where
  listed : node.name ∈ names
  path : node.path = "/dev/" ++ node.name
  info : infos node.name = .ok (some node.info)
  vendor : node.info.vendorId = VENDOR_ID
  control : ∃ entry, lookup node.info.productId = some entry ∧ node.info.interfaceNumber = entry.reportIndex

/-- Some listed node, on whatever interface, belongs to a device in the table. -/
def SupportedListed : Prop :=
  ∃ name ∈ names, ∃ info, infos name = .ok (some info) ∧ info.vendorId = VENDOR_ID ∧ (lookup info.productId).isSome

/-- Every listed node says what it belongs to, or that it belongs to nothing. -/
def Readable : Prop :=
  ∀ name ∈ names, ∃ found, infos name = .ok found

/-- Each attached control node is tried exactly once, nothing else is opened,
and the run fails when there was something to open and nothing could be. -/
def Kernel.CoversAttached (K : Kernel) (w : World) : Prop :=
  ∃ tries, Interrogated K w tries (K.info w).2 ∧ (tries.map Prod.fst).Nodup ∧
    (∀ node, node ∈ tries.map Prod.fst ↔ Attached names infos node) ∧
    ((∃ e, (K.info w).1 = .error e) ↔ SupportedListed names infos ∧ ∀ t ∈ tries, t.2 = none)

end

variable {names : List String} {infos : String → Except HidError (Option UsbInterfaceInfo)}

/-- A node is known by its path. -/
theorem Attached.eq_of_path {n m : HidrawNode} (first : Attached names infos n) (second : Attached names infos m)
    (same : n.path = m.path) : n = m := by
  obtain ⟨name, path, info⟩ := n
  obtain ⟨name', path', info'⟩ := m
  obtain ⟨_, made, resolves, _, _⟩ := first
  obtain ⟨_, made', resolves', _, _⟩ := second
  simp only at made made' resolves resolves' same
  have equal : "/dev/" ++ name = "/dev/" ++ name' := made.symm.trans (same.trans made')
  obtain rfl := (String.append_right_inj _).mp equal
  obtain rfl := Option.some.inj (Except.ok.inj (resolves.symm.trans resolves'))
  rw [made, made']

theorem mem_supportedPids {nodes : List HidrawNode} {pid : UInt16} :
    pid ∈ supportedPids nodes ↔ (lookup pid).isSome ∧ ∃ n ∈ nodes, n.info.productId = pid := by
  have grows (pids : List UInt16) : pid ∈ nodes.foldl (fun pids n =>
      if (lookup n.info.productId).isSome && !pids.contains n.info.productId then pids ++ [n.info.productId] else pids) pids ↔
        pid ∈ pids ∨ (lookup pid).isSome ∧ ∃ n ∈ nodes, n.info.productId = pid := by
    induction nodes generalizing pids with
    | nil => simp
    | cons n rest ih =>
      rw [List.foldl_cons, ih]
      split
      · rename_i fresh
        simp only [Bool.and_eq_true] at fresh
        simp only [List.mem_append, List.mem_singleton, List.exists_mem_cons_iff]
        constructor
        · rintro ((old | rfl) | later)
          · exact Or.inl old
          · exact Or.inr ⟨fresh.1, Or.inl rfl⟩
          · exact Or.inr ⟨later.1, Or.inr later.2⟩
        · rintro (old | ⟨known, rfl | later⟩)
          · exact Or.inl (Or.inl old)
          · exact Or.inl (Or.inr rfl)
          · exact Or.inr ⟨known, later⟩
      · rename_i stale
        simp only [Bool.and_eq_true, Bool.not_eq_true', List.contains_eq_mem, decide_eq_false_iff_not, not_and, not_not] at stale
        simp only [List.exists_mem_cons_iff]
        constructor
        · rintro (old | later)
          · exact Or.inl old
          · exact Or.inr ⟨later.1, Or.inr later.2⟩
        · rintro (old | ⟨known, rfl | later⟩)
          · exact Or.inl old
          · exact Or.inl (stale known)
          · exact Or.inr ⟨known, later⟩
  unfold supportedPids
  rw [grows]
  simp

/-- The node that `info` goes to for a product id. -/
def chosen (nodes : List HidrawNode) (pid : UInt16) : Option HidrawNode :=
  (lookup pid).bind fun entry => nodes.find? fun n => n.info.productId = pid ∧ n.info.interfaceNumber = entry.reportIndex

theorem chosen_spec {nodes : List HidrawNode} {pid : UInt16} {n : HidrawNode} (chose : chosen nodes pid = some n) :
    n ∈ nodes ∧ n.info.productId = pid ∧ ∃ entry, lookup n.info.productId = some entry ∧ n.info.interfaceNumber = entry.reportIndex := by
  obtain ⟨entry, known, found⟩ := Option.bind_eq_some_iff.mp chose
  have keys := List.find?_some found
  simp only [decide_eq_true_eq] at keys
  refine ⟨List.mem_of_find?_eq_some found, keys.1, entry, ?_, keys.2⟩
  rw [keys.1]
  exact known

theorem chosen_of_mem {nodes : List HidrawNode} {n : HidrawNode} {entry : DeviceEntry} (member : n ∈ nodes)
    (known : lookup n.info.productId = some entry) (control : n.info.interfaceNumber = entry.reportIndex) :
    ∃ m, chosen nodes n.info.productId = some m := by
  have found : (nodes.find? fun m => m.info.productId = n.info.productId ∧ m.info.interfaceNumber = entry.reportIndex).isSome := by
    rw [List.find?_isSome]
    exact ⟨n, member, by simp [control]⟩
  obtain ⟨m, finds⟩ := Option.isSome_iff_exists.mp found
  exact ⟨m, Option.bind_eq_some_iff.mpr ⟨entry, known, finds⟩⟩

theorem Readable.sorted (readable : Readable names infos) : ∀ n ∈ sortByIndex names, ∃ found, infos n = .ok found :=
  fun n member => readable n ((sortByIndex_perm names).mem_iff.mp member)

namespace Kernel

variable {K : Kernel}

/-- The nodes that a listing of a steady system returns, where it can be read. -/
def attachedNodes (K : Kernel) (names : List String) (infos : String → Except HidError (Option UsbInterfaceInfo)) :
    List HidrawNode :=
  (sortByIndex names).filterMap (razerNode K.sysfs infos)

theorem listRazerNodes_steady (steady : K.sysfs.Steady (.ok names) infos) (readable : Readable names infos) (w : World) :
    (listRazerNodes K.sysfs w).1 = .ok (K.attachedNodes names infos) := by
  have listed := listRazerNodes_listing steady w
  generalize (listRazerNodes K.sysfs w).1 = result at listed
  cases listed with
  | listed _ => rfl
  | failed split _ fails =>
    obtain ⟨found, resolves⟩ := readable.sorted _ (split ▸ List.mem_append_right _ (List.mem_cons_self ..))
    rw [fails] at resolves
    cases resolves

/-- One node that cannot be read ends the listing. -/
theorem listRazerNodes_unreadable (steady : K.sysfs.Steady (.ok names) infos) (unreadable : ¬Readable names infos)
    (w : World) : ∃ e, (listRazerNodes K.sysfs w).1 = .error e := by
  have listed := listRazerNodes_listing steady w
  generalize (listRazerNodes K.sysfs w).1 = result at listed
  cases listed with
  | listed each => exact absurd (fun n member => each n ((sortByIndex_perm names).mem_iff.mpr member)) unreadable
  | failed _ _ _ => exact ⟨_, rfl⟩

theorem findDevice_steady (steady : K.sysfs.Steady (.ok names) infos) (readable : Readable names infos)
    {entry : DeviceEntry} (known : lookup entry.pid = some entry) (w : World) :
    (findDevice K.sysfs RAZER_VID entry.pid entry.reportIndex w).1 =
      match chosen (K.attachedNodes names infos) entry.pid with
      | some n => .ok n
      | none => .error (.deviceNotFound VENDOR_ID entry.pid entry.reportIndex) := by
  have search : Search K.sysfs _ RAZER_VID entry.pid entry.reportIndex (sortByIndex names) _ := findDevice_search steady w
  have listed := search.unique (search_of_listing _ readable.sorted entry.pid entry.reportIndex)
  rw [listed, chosen, known]
  rfl

theorem mem_attachedNodes {n : HidrawNode} : n ∈ K.attachedNodes names infos ↔
    n.name ∈ names ∧ n.path = "/dev/" ++ n.name ∧ infos n.name = .ok (some n.info) ∧ n.info.vendorId = VENDOR_ID := by
  rw [attachedNodes, List.mem_filterMap]
  constructor
  · rintro ⟨name, member, node⟩
    obtain ⟨rfl, path, resolves, razer⟩ := razerNode_eq_some.mp node
    exact ⟨(sortByIndex_perm names).mem_iff.mp member, path, resolves, razer⟩
  · rintro ⟨member, path, resolves, razer⟩
    exact ⟨n.name, (sortByIndex_perm names).mem_iff.mpr member, razerNode_eq_some.mpr ⟨rfl, path, resolves, razer⟩⟩

theorem attached_iff {n : HidrawNode} : Attached names infos n ↔ n ∈ K.attachedNodes names infos ∧
    ∃ entry, lookup n.info.productId = some entry ∧ n.info.interfaceNumber = entry.reportIndex := by
  rw [mem_attachedNodes]
  constructor
  · rintro ⟨listed, path, info, vendor, control⟩
    exact ⟨⟨listed, path, info, vendor⟩, control⟩
  · rintro ⟨⟨listed, path, info, vendor⟩, control⟩
    exact ⟨listed, path, info, vendor, control⟩

/-- One product id: its node, if it has one, is tried, and the counters say what came of it. -/
theorem visit_interrogates (steady : K.sysfs.Steady (.ok names) infos) (readable : Readable names infos)
    {entry : DeviceEntry} (known : lookup entry.pid = some entry) (tally : Tally) (w : World) :
    ∃ v w' tries, K.visit entry entry.pid w = (.ok v, w') ∧
      (∀ {later w''}, Interrogated K w' later w'' → Interrogated K w (tries ++ later) w'') ∧
      tries.map Prod.fst = (chosen (K.attachedNodes names infos) entry.pid).toList ∧
      (tally.count entry.pid v).opened = tally.opened + tries.countP (·.2.isSome) ∧
      (tally.count entry.pid v).opened + (tally.count entry.pid v).failed = tally.opened + tally.failed + 1 := by
  have located := K.findDevice_quiet RAZER_VID entry.pid entry.reportIndex w
  have answer := findDevice_steady steady readable known w
  rcases finds : findDevice K.sysfs RAZER_VID entry.pid entry.reportIndex w with ⟨result, w₁⟩
  rw [finds] at located answer
  cases chose : chosen (K.attachedNodes names infos) entry.pid with
  | none =>
    rw [chose] at answer
    obtain rfl : result = _ := answer
    refine ⟨.notLocated (.deviceNotFound VENDOR_ID entry.pid entry.reportIndex), w₁, [], ?_,
      fun run => run.quietly located, rfl, rfl, ?_⟩
    · simp only [visit, finds]
    · simp only [Tally.count]
      omega
  | some node =>
    rw [chose] at answer
    obtain rfl : result = _ := answer
    obtain ⟨_, product, _⟩ := chosen_spec chose
    rw [← product] at known
    rcases opens : K.openExpecting entry node.path RAZER_VID entry.pid w₁ with ⟨e | dev, w₂⟩
    · refine ⟨.notOpened node e, w₂, [(node, none)], ?_, ?_, rfl, rfl, ?_⟩
      · simp only [visit, finds, opens]
      · exact fun later => .refused located known opens later
      · simp only [Tally.count]
        omega
    · rcases reads : Session.readDevice (K.host entry dev) (Session.new entry w₂) with ⟨report, session⟩
      refine ⟨.read node report, session.world, [(node, some report)], ?_, ?_, rfl, rfl, ?_⟩
      · simp only [visit, finds, opens, reads]
      · exact fun later => .read located known opens reads later
      · simp only [Tally.count]
        omega

/-- Whatever becomes of the earlier devices, the loop goes on to the next. -/
theorem infoLoop_interrogates (steady : K.sysfs.Steady (.ok names) infos) (readable : Readable names infos)
    (pids : List UInt16) (known : ∀ pid ∈ pids, (lookup pid).isSome) (tally : Tally) (w : World) :
    ∃ tally' w' tries, K.infoLoop pids tally w = (.ok tally', w') ∧ Interrogated K w tries w' ∧
      tries.map Prod.fst = pids.filterMap (chosen (K.attachedNodes names infos)) ∧
      tally'.opened = tally.opened + tries.countP (·.2.isSome) ∧
      tally'.opened + tally'.failed = tally.opened + tally.failed + pids.length := by
  induction pids generalizing tally w with
  | nil => exact ⟨tally, w, [], rfl, .done .rfl, rfl, rfl, rfl⟩
  | cons pid rest ih =>
    obtain ⟨here, others⟩ := List.forall_mem_cons.mp known
    obtain ⟨entry, found⟩ := Option.isSome_iff_exists.mp here
    obtain rfl := lookup_pid found
    obtain ⟨v, w₁, tried, visited, extend, node, opened, counted⟩ := visit_interrogates steady readable found tally w
    obtain ⟨tally', w', tries, ran, interrogated, nodes, opened', counted'⟩ := ih others (tally.count entry.pid v) w₁
    refine ⟨tally', w', tried ++ tries, ?_, extend interrogated, ?_, ?_, ?_⟩
    · simp only [infoLoop, found]
      rw [Prog.bind_of_ok visited]
      exact ran
    · rw [List.map_append, node, nodes, List.filterMap_cons]
      cases chosen (K.attachedNodes names infos) entry.pid <;> rfl
    · rw [opened', opened, List.countP_append]
      omega
    · rw [counted', counted, List.length_cons]
      omega

/-- What `info` does on a bus that keeps still and can be read: the first control node of each
supported product id is tried, in turn. -/
theorem info_interrogates (steady : K.sysfs.Steady (.ok names) infos) (readable : Readable names infos) (w : World) :
    ∃ tries, Interrogated K w tries (K.info w).2 ∧
      tries.map Prod.fst =
        (supportedPids (K.attachedNodes names infos)).filterMap (chosen (K.attachedNodes names infos)) ∧
      ((∃ e, (K.info w).1 = .error e) ↔
        supportedPids (K.attachedNodes names infos) ≠ [] ∧ ∀ t ∈ tries, t.2 = none) := by
  have listed := K.listRazerNodes_quiet w
  have lists : listRazerNodes K.sysfs w = (.ok _, _) := Prod.ext (listRazerNodes_steady steady readable w) rfl
  have begins : K.info w = _ := Prog.bind_of_ok (Prog.mapError_of_ok lists)
  obtain ⟨_, known⟩ := supportedPids_spec (K.attachedNodes names infos)
  by_cases none : supportedPids (K.attachedNodes names infos) = []
  · rw [if_pos (List.isEmpty_iff.mpr none)] at begins
    rw [begins, none]
    refine ⟨[], .done listed, rfl, ?_⟩
    simp
  · obtain ⟨tally, w', tries, ran, interrogated, nodes, opened, counted⟩ :=
      infoLoop_interrogates steady readable _ known {} (listRazerNodes K.sysfs w).2
    rw [if_neg (mt List.isEmpty_iff.mp none), Prog.bind_of_ok ran] at begins
    have some : 0 < (supportedPids (K.attachedNodes names infos)).length := List.length_pos_iff.mpr none
    have shut : (∀ t ∈ tries, t.2 = Option.none) ↔ tally.opened = 0 := by
      rw [opened, Nat.zero_add, List.countP_eq_zero]
      simp
    refine ⟨tries, ?_, nodes, ?_⟩
    · rw [begins]
      split
      · exact interrogated.quietly listed
      · exact interrogated.quietly listed
    · rw [begins, shut]
      by_cases gaveUp : tally.opened = 0 ∧ tally.failed > 0
      · rw [if_pos gaveUp]
        exact ⟨fun _ => ⟨none, gaveUp.1⟩, fun _ => ⟨_, rfl⟩⟩
      · rw [if_neg gaveUp]
        constructor
        · rintro ⟨e, failed⟩
          cases failed
        · rintro ⟨_, closed⟩
          refine absurd ⟨closed, ?_⟩ gaveUp
          omega

theorem supportedListed_iff : SupportedListed names infos ↔ supportedPids (K.attachedNodes names infos) ≠ [] := by
  constructor
  · rintro ⟨name, member, info, resolves, vendor, known⟩
    have node : ⟨name, "/dev/" ++ name, info⟩ ∈ K.attachedNodes names infos :=
      mem_attachedNodes.mpr ⟨member, rfl, resolves, vendor⟩
    exact List.ne_nil_of_mem (mem_supportedPids.mpr ⟨known, _, node, rfl⟩)
  · intro some
    obtain ⟨pid, member⟩ := List.exists_mem_of_ne_nil _ some
    obtain ⟨known, n, node, rfl⟩ := mem_supportedPids.mp member
    obtain ⟨listed, _, resolves, vendor⟩ := mem_attachedNodes.mp node
    exact ⟨n.name, listed, n.info, resolves, vendor, known⟩

/-- A node that cannot be read ends the run before anything is tried. -/
theorem info_unreadable (steady : K.sysfs.Steady (.ok names) infos) (unreadable : ¬Readable names infos) (w : World) :
    Interrogated K w [] (K.info w).2 ∧ ∃ e, (K.info w).1 = .error e := by
  have quiet := K.listRazerNodes_quiet w
  obtain ⟨e, fails⟩ := listRazerNodes_unreadable steady unreadable w
  have lists : listRazerNodes K.sysfs w = (.error e, _) := Prod.ext fails rfl
  have run : K.info w = (.error (.hid e), (listRazerNodes K.sysfs w).2) :=
    Prog.bind_of_error (Prog.mapError_of_error lists)
  rw [run]
  exact ⟨.done quiet, _, rfl⟩

/-- Only the first control node of a model is ever tried. -/
theorem distinct_of_covers (steady : K.sysfs.Steady (.ok names) infos) (readable : Readable names infos) {w : World}
    (covers : K.CoversAttached names infos w) {n m : HidrawNode} (first : Attached names infos n)
    (second : Attached names infos m) (same : n.info.productId = m.info.productId) : n = m := by
  obtain ⟨tries, interrogated, _, members, _⟩ := covers
  obtain ⟨tries', interrogated', nodes, _⟩ := info_interrogates steady readable w
  have paths := interrogated.paths interrogated'
  have tried {k : HidrawNode} (attached : Attached names infos k) :
      chosen (K.attachedNodes names infos) k.info.productId = some k := by
    obtain ⟨t, member, rfl⟩ := List.mem_map.mp ((members k).mpr attached)
    have path : t.1.path ∈ tries'.map (·.1.path) := by
      rw [← paths]
      exact List.mem_map_of_mem member
    obtain ⟨t', member', samePath⟩ := List.mem_map.mp path
    have among : t'.1 ∈ tries'.map Prod.fst := List.mem_map_of_mem member'
    rw [nodes] at among
    obtain ⟨pid, _, chose⟩ := List.mem_filterMap.mp among
    obtain ⟨node, rfl, control⟩ := chosen_spec chose
    have attached' : Attached names infos t'.1 := attached_iff.mpr ⟨node, control⟩
    rw [← attached'.eq_of_path attached samePath]
    exact chose
  have chose := tried first
  rw [same, tried second] at chose
  exact (Option.some.inj chose).symm

/-- Where a node cannot be read, there must have been nothing to try, and something to complain of. -/
theorem covers_unreadable (steady : K.sysfs.Steady (.ok names) infos) (unreadable : ¬Readable names infos) (w : World) :
    K.CoversAttached names infos w ↔ (¬∃ n, Attached names infos n) ∧ SupportedListed names infos := by
  obtain ⟨silent, failed⟩ := info_unreadable steady unreadable w
  constructor
  · rintro ⟨tries, interrogated, _, members, failure⟩
    have paths := interrogated.paths silent
    obtain rfl : tries = [] := List.map_eq_nil_iff.mp paths
    refine ⟨?_, (failure.mp failed).1⟩
    rintro ⟨n, attached⟩
    cases (members n).mpr attached
  · rintro ⟨nothing, supported⟩
    refine ⟨[], silent, List.nodup_nil, fun node => ⟨fun tried => ?_, fun attached => ?_⟩,
      fun _ => ⟨supported, fun t tried => ?_⟩, fun _ => failed⟩
    · cases tried
    · exact absurd ⟨node, attached⟩ nothing
    · cases tried

/-- Where all can be read, no two control nodes must be of the same model. -/
theorem covers_readable (steady : K.sysfs.Steady (.ok names) infos) (readable : Readable names infos) (w : World) :
    K.CoversAttached names infos w ↔
      ∀ n m, Attached names infos n → Attached names infos m → n.info.productId = m.info.productId → n = m := by
  constructor
  · intro covers n m first second same
    exact distinct_of_covers steady readable covers first second same
  · intro distinct
    obtain ⟨tries, interrogated, nodes, failure⟩ := info_interrogates steady readable w
    rw [← supportedListed_iff] at failure
    refine ⟨tries, interrogated, ?_, fun node => ?_, failure⟩
    · rw [nodes]
      refine (supportedPids_spec _).1.filterMap ?_
      intro pid pid' node chose chose'
      exact (chosen_spec chose).2.1.symm.trans (chosen_spec chose').2.1
    · rw [nodes, List.mem_filterMap]
      constructor
      · rintro ⟨pid, _, chose⟩
        obtain ⟨member, rfl, control⟩ := chosen_spec chose
        exact attached_iff.mpr ⟨member, control⟩
      · intro attached
        obtain ⟨member, entry, known, control⟩ := attached_iff.mp attached
        obtain ⟨other, chose⟩ := chosen_of_mem member known control
        obtain ⟨member', product, control'⟩ := chosen_spec chose
        have same := distinct _ _ (attached_iff.mpr ⟨member', control'⟩) attached product
        rw [same] at chose
        exact ⟨node.info.productId, mem_supportedPids.mpr ⟨by rw [known]; rfl, node, member, rfl⟩, chose⟩

/-- `info` covers the attached devices exactly when no two of them are of the same
model and every listed node can be read. One that cannot ends the run with an
error, which is right only where a supported device shows no control node. -/
theorem info_covers_iff (steady : K.sysfs.Steady (.ok names) infos) (w : World) :
    K.CoversAttached names infos w ↔
      (∀ n m, Attached names infos n → Attached names infos m → n.info.productId = m.info.productId → n = m) ∧
      (Readable names infos ∨ (¬∃ n, Attached names infos n) ∧ SupportedListed names infos) := by
  by_cases readable : Readable names infos
  · rw [covers_readable steady readable]
    exact (and_iff_left (Or.inl readable)).symm
  · rw [covers_unreadable steady readable, or_iff_right readable]
    refine (and_iff_right_of_imp fun nothing n _ attached => ?_).symm
    exact absurd ⟨n, attached⟩ nothing.1

theorem ofBus_steady {bus : Nat → List (String × HidInterface)} {held : List (String × HidInterface)}
    (still : ∀ t, bus t = held) :
    (ofBus bus).sysfs.Steady (.ok (held.map Prod.fst)) fun name => .ok ((held.lookup name).bind HidInterface.info) where
  listing w := by simp only [sysfs, ofBus, still]
  infos name w := by simp only [sysfs, ofBus, still]

/-- One keyboard, whose interface 3 is the only control node. -/
theorem info_covers_iff_one_keyboard :
    (ofBus steadyBus).CoversAttached ["hidraw0", "hidraw3"]
      (fun name => .ok (((steadyBus 0).lookup name).bind HidInterface.info)) {} := by
  refine (info_covers_iff (ofBus_steady fun _ => rfl) {}).mpr ⟨?_, Or.inl fun _ _ => ⟨_, rfl⟩⟩
  have only {n : HidrawNode} (attached : Attached ["hidraw0", "hidraw3"]
      (fun name => .ok (((steadyBus 0).lookup name).bind HidInterface.info)) n) : n.path = "/dev/hidraw3" := by
    obtain ⟨name, path, info⟩ := n
    obtain ⟨listed, made, resolves, _, entry, known, control⟩ := attached
    simp only [List.mem_cons, List.not_mem_nil, or_false] at listed made resolves
    rcases listed with rfl | rfl
    · obtain rfl : _ = info := Option.some.inj (Except.ok.inj resolves)
      obtain rfl : _ = entry := Option.some.inj known
      exact absurd control (show ¬(0 : UInt8) = 3 by decide)
    · exact made
  intro n m first second _
  exact first.eq_of_path second ((only first).trans (only second).symm)

/-- Two keyboards of one model on one bus. -/
def twinBus (_ : Nat) : List (String × HidInterface) :=
  [("hidraw3", blackwidow 3), ("hidraw7", blackwidow 3)]

/-- The second keyboard is not so much as opened, and the run succeeds. -/
theorem second_keyboard_is_skipped :
    ((ofBus twinBus).info {}).2.openings.map Opening.path = ["/dev/hidraw3"] ∧
    ¬(ofBus twinBus).CoversAttached ["hidraw3", "hidraw7"]
      (fun name => .ok (((twinBus 0).lookup name).bind HidInterface.info)) {} := by
  refine ⟨by decide +kernel, fun covers => ?_⟩
  have steady : (ofBus twinBus).sysfs.Steady _ _ := ofBus_steady fun _ => rfl
  have first : Attached ["hidraw3", "hidraw7"] (fun name => .ok (((twinBus 0).lookup name).bind HidInterface.info))
      ⟨"hidraw3", "/dev/hidraw3", MockSysfs.usb 0x028D 3 0x02⟩ :=
    ⟨by decide, by decide, by decide, by decide, TABLE[2], by decide, by decide⟩
  have second : Attached ["hidraw3", "hidraw7"] (fun name => .ok (((twinBus 0).lookup name).bind HidInterface.info))
      ⟨"hidraw7", "/dev/hidraw7", MockSysfs.usb 0x028D 3 0x02⟩ :=
    ⟨by decide, by decide, by decide, by decide, TABLE[2], by decide, by decide⟩
  exact absurd (distinct_of_covers steady (fun _ _ => ⟨_, rfl⟩) covers first second rfl) (by decide)

end Kernel

end OpenRazer
