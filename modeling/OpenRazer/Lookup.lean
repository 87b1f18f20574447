import OpenRazer.Mock

universe u

namespace OpenRazer

theorem sortKey_injective : Function.Injective sortKey := by
  intro a b same
  exact congrArg (fun key => (ofLex key).2) same

theorem sortByIndex_perm (names : List String) : (sortByIndex names).Perm names :=
  List.perm_insertionSort _ names

theorem sortByIndex_sorted (names : List String) : (sortByIndex names).Pairwise (sortKey · ≤ sortKey ·) := by
  have total : Std.Total fun a b : String => sortKey a ≤ sortKey b := ⟨fun a b => le_total (sortKey a) (sortKey b)⟩
  have trans : IsTrans String fun a b => sortKey a ≤ sortKey b := ⟨fun a b c => @le_trans _ _ (sortKey a) (sortKey b) (sortKey c)⟩
  exact List.pairwise_insertionSort _ names

/-- Only equal names tie, so the order a source lists its names in is forgotten. -/
theorem sortByIndex_congr {names names' : List String} (same : names.Perm names') :
    sortByIndex names = sortByIndex names' := by
  have perm := ((sortByIndex_perm names).trans same).trans (sortByIndex_perm names').symm
  refine perm.eq_of_pairwise ?_ (sortByIndex_sorted names) (sortByIndex_sorted names')
  intro a b _ _ before after
  exact sortKey_injective (le_antisymm before after)

/-- A source that gives the same answers however often it is asked. -/
structure SysfsSource.Steady {S : Type u} (sysfs : SysfsSource S) (listing : Except HidError (List String))
    (infos : String → Except HidError (Option UsbInterfaceInfo)) : Prop where
  listing : ∀ s, (sysfs.hidrawNames s).1 = listing
  infos : ∀ name s, (sysfs.interfaceInfo name s).1 = infos name

/-- The interface is the one asked for, on all three keys. -/
def UsbInterfaceInfo.Is (info : UsbInterfaceInfo) (vid pid : UInt16) (interface : UInt8) : Prop :=
  info.vendorId = vid ∧ info.productId = pid ∧ info.interfaceNumber = interface

instance (info : UsbInterfaceInfo) (vid pid : UInt16) (interface : UInt8) : Decidable (info.Is vid pid interface) :=
  inferInstanceAs (Decidable (_ ∧ _ ∧ _))

section

variable (infos : String → Except HidError (Option UsbInterfaceInfo)) (vid pid : UInt16) (interface : UInt8)

/-- A name the search goes past: no USB parent, or some other interface. -/
def Passed (name : String) : Prop :=
  infos name = .ok none ∨ ∃ info, infos name = .ok (some info) ∧ ¬info.Is vid pid interface

/-- The names come as `before`, all of them passed, then `name`. -/
def FirstStop (names : List String) (name : String) : Prop :=
  ∃ before rest, names = before ++ name :: rest ∧ ∀ n ∈ before, Passed infos vid pid interface n

end

variable {S : Type u} {sysfs : SysfsSource S} {listing : Except HidError (List String)}
  {infos : String → Except HidError (Option UsbInterfaceInfo)} {vid pid : UInt16} {interface : UInt8}

/-- How the search through a list of names ends. -/
inductive Search (sysfs : SysfsSource S) (infos : String → Except HidError (Option UsbInterfaceInfo))
    (vid pid : UInt16) (interface : UInt8) (names : List String) : Except HidError HidrawNode → Prop
  | found {name info} : FirstStop infos vid pid interface names name → infos name = .ok (some info) →
      info.Is vid pid interface → Search sysfs infos vid pid interface names (.ok ⟨name, sysfs.devicePath name, info⟩)
  | failed {name e} : FirstStop infos vid pid interface names name → infos name = .error e →
      Search sysfs infos vid pid interface names (.error e)
  | missing : (∀ n ∈ names, Passed infos vid pid interface n) →
      Search sysfs infos vid pid interface names (.error (.deviceNotFound vid pid interface))

theorem FirstStop.here {name : String} {rest : List String} : FirstStop infos vid pid interface (name :: rest) name :=
  ⟨[], rest, rfl, fun _ member => by cases member⟩

theorem FirstStop.later {first name : String} {rest : List String} (passed : Passed infos vid pid interface first)
    (stop : FirstStop infos vid pid interface rest name) : FirstStop infos vid pid interface (first :: rest) name := by
  obtain ⟨before, after, split, each⟩ := stop
  exact ⟨first :: before, after, congrArg _ split, List.forall_mem_cons.mpr ⟨passed, each⟩⟩

theorem Search.later {first : String} {rest : List String} {result : Except HidError HidrawNode}
    (passed : Passed infos vid pid interface first) (search : Search sysfs infos vid pid interface rest result) :
    Search sysfs infos vid pid interface (first :: rest) result := by
  cases search with
  | found stop resolves is => exact .found (stop.later passed) resolves is
  | failed stop fails => exact .failed (stop.later passed) fails
  | missing each => exact .missing (List.forall_mem_cons.mpr ⟨passed, each⟩)

theorem SysfsSource.Steady.lists (steady : sysfs.Steady listing infos) (s : S) :
    ∃ t, sysfs.hidrawNames s = (listing, t) :=
  ⟨_, Prod.ext (steady.listing s) rfl⟩

theorem SysfsSource.Steady.asks (steady : sysfs.Steady listing infos) (name : String) (s : S) :
    ∃ t, sysfs.interfaceInfo name s = (infos name, t) :=
  ⟨_, Prod.ext (steady.infos name s) rfl⟩

theorem findAmong_search (steady : sysfs.Steady listing infos) (names : List String) (s : S) :
    Search sysfs infos vid pid interface names (findAmong sysfs vid pid interface names s).1 := by
  induction names generalizing s with
  | nil => exact .missing fun _ member => by cases member
  | cons name rest ih =>
    obtain ⟨t, asks⟩ := steady.asks name s
    cases answer : infos name with
    | error e =>
      rw [answer] at asks
      rw [findAmong, Prog.bind_of_error asks]
      exact .failed .here answer
    | ok found =>
      rw [answer] at asks
      rw [findAmong, Prog.bind_of_ok asks]
      cases found with
      | none => exact (ih t).later (Or.inl answer)
      | some info =>
        simp only
        split
        · rename_i is
          exact .found .here answer is
        · rename_i other
          exact (ih t).later (Or.inr ⟨info, answer, other⟩)

theorem findDevice_search {names : List String} (steady : sysfs.Steady (.ok names) infos) (s : S) :
    Search sysfs infos vid pid interface (sortByIndex names) (findDevice sysfs vid pid interface s).1 := by
  obtain ⟨t, lists⟩ := steady.lists s
  rw [findDevice, Prog.bind_of_ok lists]
  exact findAmong_search steady _ t

theorem not_passed_of_ok {name : String} {info : UsbInterfaceInfo} (resolves : infos name = .ok (some info))
    (is : info.Is vid pid interface) : ¬Passed infos vid pid interface name := by
  rintro (none | ⟨other, resolves', differs⟩)
  · rw [resolves] at none
    cases none
  · obtain rfl := Option.some.inj (Except.ok.inj (resolves.symm.trans resolves'))
    exact differs is

theorem not_passed_of_error {name : String} {e : HidError} (fails : infos name = .error e) :
    ¬Passed infos vid pid interface name := by
  rintro (none | ⟨other, resolves, _⟩)
  · rw [fails] at none
    cases none
  · rw [fails] at resolves
    cases resolves

theorem FirstStop.unique {names : List String} {name name' : String} (stop : FirstStop infos vid pid interface names name)
    (stop' : FirstStop infos vid pid interface names name') (here : ¬Passed infos vid pid interface name)
    (here' : ¬Passed infos vid pid interface name') : name = name' := by
  obtain ⟨before, rest, split, each⟩ := stop
  obtain ⟨before', rest', split', each'⟩ := stop'
  rw [split] at split'
  rcases List.append_eq_append_iff.mp split' with ⟨between, longer, tail⟩ | ⟨between, longer, tail⟩
  · cases between with
    | nil => exact (List.cons_eq_cons.mp tail).1
    | cons first more =>
      obtain ⟨rfl, _⟩ := List.cons_eq_cons.mp tail
      exact absurd (each' name (by simp [longer])) here
  · cases between with
    | nil => exact (List.cons_eq_cons.mp tail).1.symm
    | cons first more =>
      obtain ⟨rfl, _⟩ := List.cons_eq_cons.mp tail
      exact absurd (each name' (by simp [longer])) here'

theorem FirstStop.mem {names : List String} {name : String} (stop : FirstStop infos vid pid interface names name) :
    name ∈ names := by
  obtain ⟨before, rest, split, _⟩ := stop
  rw [split]
  exact List.mem_append_right _ (List.mem_cons_self ..)

/-- A search stops no later than at a name that it cannot pass. -/
theorem FirstStop.mem_of_not_passed {before rest : List String} {name stopped : String}
    (stop : FirstStop infos vid pid interface (before ++ rest) stopped) (member : name ∈ before)
    (stops : ¬Passed infos vid pid interface name) : stopped ∈ before := by
  obtain ⟨passed, after, split, each⟩ := stop
  rcases List.append_eq_append_iff.mp split with ⟨between, longer, _⟩ | ⟨between, longer, tail⟩
  · exact absurd (each name (longer ▸ List.mem_append_left _ member)) stops
  · cases between with
    | nil =>
      rw [List.append_nil] at longer
      exact absurd (each name (longer ▸ member)) stops
    | cons first more =>
      obtain ⟨rfl, _⟩ := List.cons_eq_cons.mp tail
      exact longer ▸ List.mem_append_right _ (List.mem_cons_self ..)

/-- Steady answers leave a search only one way to end. -/
theorem Search.unique {names : List String} {result result' : Except HidError HidrawNode}
    (search : Search sysfs infos vid pid interface names result)
    (search' : Search sysfs infos vid pid interface names result') : result = result' := by
  cases search with
  | found stop resolves is =>
    have here := not_passed_of_ok resolves is
    cases search' with
    | found stop' resolves' is' =>
      obtain rfl := stop.unique stop' here (not_passed_of_ok resolves' is')
      obtain rfl := Option.some.inj (Except.ok.inj (resolves.symm.trans resolves'))
      rfl
    | failed stop' fails =>
      obtain rfl := stop.unique stop' here (not_passed_of_error fails)
      rw [resolves] at fails
      cases fails
    | missing each => exact absurd (each _ stop.mem) here
  | failed stop fails =>
    have here : ¬Passed infos vid pid interface _ := not_passed_of_error fails
    cases search' with
    | found stop' resolves is =>
      obtain rfl := stop.unique stop' here (not_passed_of_ok resolves is)
      rw [fails] at resolves
      cases resolves
    | failed stop' fails' =>
      obtain rfl := stop.unique stop' here (not_passed_of_error fails')
      obtain rfl := Except.error.inj (fails.symm.trans fails')
      rfl
    | missing each => exact absurd (each _ stop.mem) here
  | missing each =>
    cases search' with
    | found stop resolves is => exact absurd (each _ stop.mem) (not_passed_of_ok resolves is)
    | failed stop fails => exact absurd (each _ stop.mem) (not_passed_of_error fails)
    | missing _ => rfl

section Outcome
variable {names : List String} {result : Except HidError HidrawNode}

theorem Search.found_iff (search : Search sysfs infos vid pid interface names result) {node : HidrawNode} :
    result = .ok node ↔ FirstStop infos vid pid interface names node.name ∧ infos node.name = .ok (some node.info) ∧
      node.info.Is vid pid interface ∧ node.path = sysfs.devicePath node.name := by
  constructor
  · intro chosen
    rw [chosen] at search
    cases search with
    | found stop resolves is => exact ⟨stop, resolves, is, rfl⟩
  · rintro ⟨stop, resolves, is, path⟩
    obtain ⟨name, nodePath, info⟩ := node
    simp only at path stop resolves is
    subst nodePath
    exact search.unique (.found stop resolves is)

theorem Search.failed_iff (search : Search sysfs infos vid pid interface names result) {e : HidError} :
    result = .error e ↔ (e = .deviceNotFound vid pid interface ∧ ∀ n ∈ names, Passed infos vid pid interface n) ∨
      ∃ name, FirstStop infos vid pid interface names name ∧ infos name = .error e := by
  constructor
  · intro failed
    rw [failed] at search
    cases search with
    | failed stop fails => exact Or.inr ⟨_, stop, fails⟩
    | missing each => exact Or.inl ⟨rfl, each⟩
  · rintro (⟨rfl, each⟩ | ⟨name, stop, fails⟩)
    · exact search.unique (.missing each)
    · exact search.unique (.failed stop fails)

/-- Of the source only its paths show in a result. -/
theorem Search.of_paths {sysfs' : SysfsSource S} (paths : sysfs'.devicePath = sysfs.devicePath)
    (search : Search sysfs' infos vid pid interface names result) : Search sysfs infos vid pid interface names result := by
  cases search with
  | found stop resolves is =>
    rw [paths]
    exact .found stop resolves is
  | failed stop fails => exact .failed stop fails
  | missing each => exact .missing each

end Outcome

/-- The result depends on the set of names and their answers alone, and is the
least match, the first failure in front of it, or nothing. -/
theorem findDevice_least {names : List String} (steady : sysfs.Steady (.ok names) infos) (vid pid : UInt16)
    (interface : UInt8) (s : S) :
    (∀ (sysfs' : SysfsSource S) names' s', names'.Perm names → sysfs'.Steady (.ok names') infos →
      sysfs'.devicePath = sysfs.devicePath →
      (findDevice sysfs' vid pid interface s').1 = (findDevice sysfs vid pid interface s).1) ∧
    (∀ node, (findDevice sysfs vid pid interface s).1 = .ok node ↔
      FirstStop infos vid pid interface (sortByIndex names) node.name ∧ infos node.name = .ok (some node.info) ∧
        node.info.Is vid pid interface ∧ node.path = sysfs.devicePath node.name) ∧
    (∀ e, (findDevice sysfs vid pid interface s).1 = .error e ↔
      (e = .deviceNotFound vid pid interface ∧ ∀ n ∈ names, Passed infos vid pid interface n) ∨
        ∃ name, FirstStop infos vid pid interface (sortByIndex names) name ∧ infos name = .error e) ∧
    -- The trait's own errors are `Sysfs` and `Io`: with such a source "not found" means just that.
    ((∀ name, infos name ≠ .error (.deviceNotFound vid pid interface)) →
      ((findDevice sysfs vid pid interface s).1 = .error (.deviceNotFound vid pid interface) ↔
        ∀ n ∈ names, Passed infos vid pid interface n)) := by
  have search : Search sysfs infos vid pid interface (sortByIndex names) _ := findDevice_search steady s
  have all : (∀ n ∈ sortByIndex names, Passed infos vid pid interface n) ↔ ∀ n ∈ names, Passed infos vid pid interface n :=
    forall_congr' fun n => imp_congr_left (sortByIndex_perm names).mem_iff
  have errors (e : HidError) : (findDevice sysfs vid pid interface s).1 = .error e ↔
      (e = .deviceNotFound vid pid interface ∧ ∀ n ∈ names, Passed infos vid pid interface n) ∨
        ∃ name, FirstStop infos vid pid interface (sortByIndex names) name ∧ infos name = .error e := by
    rw [← all]
    exact search.failed_iff
  refine ⟨?_, fun node => search.found_iff, errors, ?_⟩
  · intro sysfs' names' s' same steady' paths
    have search' : Search sysfs' infos vid pid interface (sortByIndex names') _ := findDevice_search steady' s'
    rw [sortByIndex_congr same] at search'
    exact (search'.of_paths paths).unique search
  · intro documented
    rw [errors]
    constructor
    · rintro (⟨_, each⟩ | ⟨name, _, fails⟩)
      · exact each
      · exact absurd fails (documented name)
    · exact fun each => Or.inl ⟨rfl, each⟩

theorem MockSysfs.source_steady (m : MockSysfs) : m.source.Steady (.ok m.names) fun name => .ok (m.info name) where
  listing _ := rfl
  infos _ _ := rfl

/-- The keyboard's control node comes after three of its other interfaces. -/
theorem findDevice_least_keyboard :
    (findDevice MockSysfs.blackwidowV4Pro.source VENDOR_ID 0x028D 3 ()).1 =
      .ok ⟨"hidraw3", "/dev/hidraw3", MockSysfs.usb 0x028D 3 0x02⟩ := by
  obtain ⟨_, found, _⟩ := findDevice_least (MockSysfs.source_steady .blackwidowV4Pro) VENDOR_ID 0x028D 3 ()
  refine (found _).mpr ⟨⟨["hidraw0", "hidraw1", "hidraw2"], [], by decide, ?_⟩, by decide, by decide, by decide⟩
  intro name before
  refine Or.inr ?_
  simp only [List.mem_cons, List.not_mem_nil, or_false] at before
  rcases before with rfl | rfl | rfl
  · exact ⟨MockSysfs.usb 0x028D 0 0x01, by decide, by decide⟩
  · exact ⟨MockSysfs.usb 0x028D 1 0x00, by decide, by decide⟩
  · exact ⟨MockSysfs.usb 0x028D 2 0x00, by decide, by decide⟩

/-- The node a name is listed as, if it resolves to a Razer interface. -/
def razerNode (sysfs : SysfsSource S) (infos : String → Except HidError (Option UsbInterfaceInfo)) (name : String) :
    Option HidrawNode :=
  match infos name with
  | .ok (some info) => if info.vendorId = VENDOR_ID then some ⟨name, sysfs.devicePath name, info⟩ else none
  | _ => none

theorem razerNode_eq_some {name : String} {n : HidrawNode} : razerNode sysfs infos name = some n ↔
    n.name = name ∧ n.path = sysfs.devicePath name ∧ infos name = .ok (some n.info) ∧ n.info.vendorId = VENDOR_ID := by
  obtain ⟨nodeName, nodePath, nodeInfo⟩ := n
  unfold razerNode
  split
  · rename_i info resolves
    split
    · rename_i razer
      simp only [Option.some.injEq, HidrawNode.mk.injEq, resolves, Except.ok.injEq]
      constructor
      · rintro ⟨rfl, rfl, rfl⟩
        exact ⟨rfl, rfl, rfl, razer⟩
      · rintro ⟨rfl, rfl, rfl, _⟩
        exact ⟨rfl, rfl, rfl⟩
    · rename_i foreign
      simp only [reduceCtorEq, resolves, Except.ok.injEq, Option.some.injEq, false_iff]
      rintro ⟨_, _, rfl, razer⟩
      exact foreign razer
  · rename_i other
    simp only [reduceCtorEq, false_iff]
    rintro ⟨_, _, resolves, _⟩
    exact other _ resolves

/-- How the listing of a list of names ends. -/
inductive Listing (sysfs : SysfsSource S) (infos : String → Except HidError (Option UsbInterfaceInfo))
    (names : List String) : Except HidError (List HidrawNode) → Prop
  | listed : (∀ n ∈ names, ∃ found, infos n = .ok found) →
      Listing sysfs infos names (.ok (names.filterMap (razerNode sysfs infos)))
  | failed {before rest name e} : names = before ++ name :: rest → (∀ n ∈ before, ∃ found, infos n = .ok found) →
      infos name = .error e → Listing sysfs infos names (.error e)

theorem Listing.skip {name : String} {rest : List String} {result : Except HidError (List HidrawNode)}
    (resolves : ∃ found, infos name = .ok found) (unlisted : razerNode sysfs infos name = none)
    (listed : Listing sysfs infos rest result) : Listing sysfs infos (name :: rest) result := by
  cases listed with
  | listed each =>
    have all : Listing sysfs infos (name :: rest) _ := .listed (List.forall_mem_cons.mpr ⟨resolves, each⟩)
    rw [List.filterMap_cons_none unlisted] at all
    exact all
  | failed split each fails => exact .failed (congrArg (name :: ·) split) (List.forall_mem_cons.mpr ⟨resolves, each⟩) fails

theorem Listing.take {name : String} {rest : List String} {n : HidrawNode} {result : Except HidError (List HidrawNode)}
    (resolves : ∃ found, infos name = .ok found) (node : razerNode sysfs infos name = some n)
    (listed : Listing sysfs infos rest result) : Listing sysfs infos (name :: rest) (result.map (n :: ·)) := by
  cases listed with
  | listed each =>
    have all : Listing sysfs infos (name :: rest) _ := .listed (List.forall_mem_cons.mpr ⟨resolves, each⟩)
    rw [List.filterMap_cons_some node] at all
    exact all
  | failed split each fails => exact .failed (congrArg (name :: ·) split) (List.forall_mem_cons.mpr ⟨resolves, each⟩) fails

theorem listAmong_listing (steady : sysfs.Steady listing infos) (names : List String) (s : S) :
    Listing sysfs infos names (listAmong sysfs names s).1 := by
  induction names generalizing s with
  | nil => exact .listed fun _ member => by cases member
  | cons name rest ih =>
    obtain ⟨t, asks⟩ := steady.asks name s
    cases answer : infos name with
    | error e =>
      rw [answer] at asks
      rw [listAmong, Prog.bind_of_error asks]
      exact .failed (List.nil_append _).symm (fun _ member => by cases member) answer
    | ok found =>
      rw [answer] at asks
      rw [listAmong, Prog.bind_of_ok asks]
      cases found with
      | none => exact (ih t).skip ⟨_, answer⟩ (by simp only [razerNode, answer])
      | some info =>
        simp only
        have listed := ih t
        rcases later : listAmong sysfs rest t with ⟨result, t'⟩
        rw [later] at listed
        by_cases razer : info.vendorId = VENDOR_ID
        · have node : razerNode sysfs infos name = some ⟨name, sysfs.devicePath name, info⟩ := by
            simp only [razerNode, answer, if_pos razer]
          have taken := listed.take ⟨_, answer⟩ node
          cases result with
          | error e =>
            rw [Prog.bind_of_error later]
            exact taken
          | ok nodes =>
            rw [Prog.bind_of_ok later, if_pos razer]
            exact taken
        · have unlisted : razerNode sysfs infos name = none := by simp only [razerNode, answer, if_neg razer]
          have skipped := listed.skip ⟨_, answer⟩ unlisted
          cases result with
          | error e =>
            rw [Prog.bind_of_error later]
            exact skipped
          | ok nodes =>
            rw [Prog.bind_of_ok later, if_neg razer]
            exact skipped

/-- Among the names that resolved, the search picks the first listed node with the other two keys. -/
theorem search_of_listing (names : List String) (resolve : ∀ n ∈ names, ∃ found, infos n = .ok found) (pid : UInt16)
    (interface : UInt8) :
    Search sysfs infos VENDOR_ID pid interface names
      (match (names.filterMap (razerNode sysfs infos)).find? fun n =>
          n.info.productId = pid ∧ n.info.interfaceNumber = interface with
        | some n => .ok n
        | none => .error (.deviceNotFound VENDOR_ID pid interface)) := by
  induction names with
  | nil => exact .missing fun _ member => by cases member
  | cons name rest ih =>
    obtain ⟨⟨found, resolves⟩, others⟩ := List.forall_mem_cons.mp resolve
    have later := ih others
    cases node : razerNode sysfs infos name with
    | none =>
      rw [List.filterMap_cons_none node]
      refine later.later ?_
      cases found with
      | none => exact Or.inl resolves
      | some info =>
        refine Or.inr ⟨info, resolves, fun is => ?_⟩
        simp only [razerNode, resolves, if_pos is.1, reduceCtorEq] at node
    | some n =>
      obtain ⟨rfl, path, info, razer⟩ := razerNode_eq_some.mp node
      rw [List.filterMap_cons_some node]
      by_cases keys : n.info.productId = pid ∧ n.info.interfaceNumber = interface
      · rw [List.find?_cons_of_pos (by simpa using keys)]
        have here : Search sysfs infos VENDOR_ID pid interface (n.name :: rest) _ := .found .here info ⟨razer, keys⟩
        rw [← path] at here
        exact here
      · rw [List.find?_cons_of_neg (by simpa using keys)]
        exact later.later (Or.inr ⟨n.info, info, fun is => keys is.2⟩)

theorem listRazerNodes_listing {names : List String} (steady : sysfs.Steady (.ok names) infos) (s : S) :
    Listing sysfs infos (sortByIndex names) (listRazerNodes sysfs s).1 := by
  obtain ⟨t, lists⟩ := steady.lists s
  rw [listRazerNodes, Prog.bind_of_ok lists]
  exact listAmong_listing steady _ t

/-- A listing that fails has gone past the same names as the search, so the search has
stopped at one of those or fails like it. -/
theorem search_of_failure {before rest : List String} {failing : String} {e : HidError}
    {result : Except HidError HidrawNode} (resolve : ∀ n ∈ before, ∃ found, infos n = .ok found)
    (fails : infos failing = .error e)
    (search : Search sysfs infos vid pid interface (before ++ failing :: rest) result) :
    result = .error e ∨ ∃ node, result = .ok node ∧ node.info.Is vid pid interface ∧ node.name ∈ before := by
  by_cases all : ∀ n ∈ before, Passed infos vid pid interface n
  · exact Or.inl (search.unique (.failed ⟨before, rest, rfl, all⟩ fails))
  · push Not at all
    obtain ⟨n, member, stops⟩ := all
    cases search with
    | found stop resolves is =>
      refine Or.inr ⟨_, rfl, is, ?_⟩
      exact stop.mem_of_not_passed member stops
    | failed stop fails' =>
      obtain ⟨found, resolves⟩ := resolve _ (stop.mem_of_not_passed member stops)
      rw [fails'] at resolves
      cases resolves
    | missing each => exact absurd (each n (List.mem_append_left _ member)) stops

/-- A name is listed as its node as often as the source lists it. -/
theorem count_razerNode {names : List String} {name : String} {n : HidrawNode} (node : razerNode sysfs infos name = some n) :
    (names.filterMap (razerNode sysfs infos)).count n = names.count name := by
  rw [List.count_filterMap, List.count]
  refine List.countP_congr fun other _ => ?_
  simp only [beq_iff_eq]
  constructor
  · intro same
    exact (razerNode_eq_some.mp same).1.symm.trans (razerNode_eq_some.mp node).1
  · rintro rfl
    exact node

theorem listed_sorted (names : List String) :
    ((sortByIndex names).filterMap (razerNode sysfs infos)).Pairwise (sortKey ·.name ≤ sortKey ·.name) := by
  refine List.pairwise_filterMap.mpr ((sortByIndex_sorted names).imp ?_)
  intro a b before n first m second
  rw [(razerNode_eq_some.mp first).1, (razerNode_eq_some.mp second).1]
  exact before

/-- Where the listing fails, the search fails with it, or has found its node at a lesser name. -/
theorem agree_of_failure {names before rest : List String} {failing : String} {e : HidError}
    (split : sortByIndex names = before ++ failing :: rest) (each : ∀ n ∈ before, ∃ found, infos n = .ok found)
    (fails : infos failing = .error e) {result : Except HidError HidrawNode}
    (search : Search sysfs infos VENDOR_ID pid interface (sortByIndex names) result) :
    result = .error e ∨ ∃ node, failing ∈ names ∧ infos failing = .error e ∧
      (∀ n ∈ names, sortKey n < sortKey failing → ∃ found, infos n = .ok found) ∧
      result = .ok node ∧ node.info.Is VENDOR_ID pid interface ∧ sortKey node.name < sortKey failing := by
  have sorted := sortByIndex_sorted names
  have members (n : String) : n ∈ before ++ failing :: rest ↔ n ∈ names := split ▸ (sortByIndex_perm names).mem_iff
  rw [split] at search sorted
  rcases search_of_failure each fails search with same | ⟨node, found, is, earlier⟩
  · exact Or.inl same
  · obtain ⟨_, tail, across⟩ := List.pairwise_append.mp sorted
    have other : node.name ≠ failing := by
      intro same
      obtain ⟨found, resolves⟩ := each _ earlier
      rw [same, fails] at resolves
      cases resolves
    refine Or.inr ⟨node, ?_, fails, ?_, found, is, ?_⟩
    · exact (members _).mp (List.mem_append_right _ (List.mem_cons_self ..))
    · intro n member before'
      rcases List.mem_append.mp ((members n).mpr member) with here | there
      · exact each n here
      · rcases List.mem_cons.mp there with rfl | later
        · exact absurd before' (lt_irrefl _)
        · exact absurd ((List.pairwise_cons.mp tail).1 n later) (not_le.mpr before')
    · exact lt_of_le_of_ne (across _ earlier _ (List.mem_cons_self ..)) fun tie => other (sortKey_injective tie)

/-- The listing and the search are two loops over one source. -/
theorem listing_and_search_agree (steady : sysfs.Steady listing infos) (pid : UInt16) (interface : UInt8) (s s' : S) :
    (∀ ns, (listRazerNodes sysfs s).1 = .ok ns →
      (findDevice sysfs VENDOR_ID pid interface s').1 =
        (match ns.find? fun n => n.info.productId = pid ∧ n.info.interfaceNumber = interface with
          | some n => .ok n
          | none => .error (.deviceNotFound VENDOR_ID pid interface)) ∧
      ns.Pairwise (sortKey ·.name ≤ sortKey ·.name) ∧
      ∃ names, listing = .ok names ∧
        (∀ n ∈ ns, n.name ∈ names ∧ infos n.name = .ok (some n.info) ∧ n.info.vendorId = VENDOR_ID ∧
          n.path = sysfs.devicePath n.name) ∧
        ∀ name info, infos name = .ok (some info) → info.vendorId = VENDOR_ID →
          ns.count ⟨name, sysfs.devicePath name, info⟩ = names.count name) ∧
    (∀ e, (listRazerNodes sysfs s).1 = .error e →
      (findDevice sysfs VENDOR_ID pid interface s').1 = .error e ∨
      ∃ names failing node, listing = .ok names ∧
        -- The name that fails the listing: the least that fails at all.
        failing ∈ names ∧ infos failing = .error e ∧
        (∀ n ∈ names, sortKey n < sortKey failing → ∃ found, infos n = .ok found) ∧
        (findDevice sysfs VENDOR_ID pid interface s').1 = .ok node ∧ node.info.Is VENDOR_ID pid interface ∧
        sortKey node.name < sortKey failing) := by
  cases listing with
  | error e =>
    obtain ⟨_, lists⟩ := steady.lists s
    obtain ⟨_, lists'⟩ := steady.lists s'
    rw [listRazerNodes, Prog.bind_of_error lists, findDevice, Prog.bind_of_error lists']
    refine ⟨fun ns listed => (by cases listed), fun e' failed => ?_⟩
    obtain rfl := Except.error.inj failed
    exact Or.inl rfl
  | ok names =>
    have search : Search sysfs infos VENDOR_ID pid interface (sortByIndex names) _ := findDevice_search steady s'
    have members (n : String) : n ∈ sortByIndex names ↔ n ∈ names := (sortByIndex_perm names).mem_iff
    have listed := listRazerNodes_listing steady s
    generalize (listRazerNodes sysfs s).1 = result at listed
    cases listed with
    | listed each =>
      refine ⟨fun ns same => ?_, fun e failed => (by cases failed)⟩
      obtain rfl := Except.ok.inj same
      refine ⟨search.unique (search_of_listing _ each pid interface), listed_sorted names, names, rfl, ?_, ?_⟩
      · intro n member
        obtain ⟨name, among, node⟩ := List.mem_filterMap.mp member
        obtain ⟨rfl, path, resolves, razer⟩ := razerNode_eq_some.mp node
        exact ⟨(members _).mp among, resolves, razer, path⟩
      · intro name info resolves razer
        have node : razerNode sysfs infos name = some ⟨name, sysfs.devicePath name, info⟩ :=
          razerNode_eq_some.mpr ⟨rfl, rfl, resolves, razer⟩
        rw [count_razerNode node, (sortByIndex_perm names).count_eq]
    | @failed before rest failing _ split each fails =>
      refine ⟨fun ns same => (by cases same), fun e failed => ?_⟩
      obtain rfl := Except.error.inj failed
      rcases agree_of_failure split each fails search with same | ⟨node, least⟩
      · exact Or.inl same
      · exact Or.inr ⟨names, failing, node, rfl, least⟩

/-- The keyboard, once more: four nodes listed, the last of them found. -/
theorem listing_and_search_agree_keyboard :
    (findDevice MockSysfs.blackwidowV4Pro.source VENDOR_ID 0x028D 3 ()).1 =
      .ok ⟨"hidraw3", "/dev/hidraw3", MockSysfs.usb 0x028D 3 0x02⟩ := by
  have listed : (listRazerNodes MockSysfs.blackwidowV4Pro.source ()).1 = .ok [
      ⟨"hidraw0", "/dev/hidraw0", MockSysfs.usb 0x028D 0 0x01⟩, ⟨"hidraw1", "/dev/hidraw1", MockSysfs.usb 0x028D 1 0x00⟩,
      ⟨"hidraw2", "/dev/hidraw2", MockSysfs.usb 0x028D 2 0x00⟩, ⟨"hidraw3", "/dev/hidraw3", MockSysfs.usb 0x028D 3 0x02⟩] := by
    decide
  exact ((listing_and_search_agree (MockSysfs.source_steady .blackwidowV4Pro) 0x028D 3 () ()).1 _ listed).1

end OpenRazer
