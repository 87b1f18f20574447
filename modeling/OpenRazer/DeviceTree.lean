import Mathlib.Data.List.ReduceOption
import OpenRazer.RealSysfs

universe u

namespace OpenRazer

section

variable {infos : String → Except HidError (Option UsbInterfaceInfo)} {vid pid : UInt16} {interface : UInt8}

/-- In ascending order the search stops at the least name that it cannot pass. -/
theorem firstStop_sorted {names : List String} {name : String} :
    FirstStop infos vid pid interface (sortByIndex names) name ↔
      name ∈ names ∧ ∀ other ∈ names, sortKey other < sortKey name → Passed infos vid pid interface other := by
  have same (n : String) := (sortByIndex_perm names).mem_iff (a := n)
  rw [FirstStop, Collections.sorted_split sortKey_injective (sortByIndex_sorted names)]
  simp only [same]

end

/-- Each attribute that is read of an interface, in order, and what it has to fit below. -/
def attributes (name : String) (usb : SysPath) : List (SysPath × String × Nat) :=
  [(usb, "idVendor", 65536), (usb, "idProduct", 65536), (name :: usb, "bInterfaceNumber", 256),
    (name :: usb, "bInterfaceProtocol", 256)]

namespace SysFiles
variable (files : SysFiles)

/-- A node on USB of which some attribute is not a number that fits, and the error naming the first such. -/
def Faulty (hidrawName : String) (e : HidError) : Prop :=
  ∃ name usb, files.OnUsb hidrawName name usb ∧ ∃ before dir attr bound after,
    attributes name usb = before ++ (dir, attr, bound) :: after ∧
    (∀ earlier ∈ before, ∃ n < earlier.2.2, files.Reads earlier.1 earlier.2.1 n) ∧ (¬∃ n < bound, files.Reads dir attr n) ∧
    ∃ why, e = .sysfs (SysPath.display (attr :: dir) ++ ": " ++ why)

/-- No USB interface is over the node, or one that says something else. -/
def PassedOver (vid pid : UInt16) (interface : UInt8) (hidrawName : String) : Prop :=
  (∀ name usb, ¬files.OnUsb hidrawName name usb) ∨
    ∃ info, files.Describes hidrawName info ∧ ¬info.Is vid pid interface

end SysFiles

namespace RealSysfs
variable {files : SysFiles} {debug : String → String} {T : Type} {tryFrom : Nat → Option T} {dir : SysPath} {attr : String}

theorem readHex_error {e : HidError} (failed : readHex debug tryFrom files dir attr = .error e) :
    ∃ why, e = .sysfs (SysPath.display (attr :: dir) ++ ": " ++ why) := by
  unfold readHex at failed
  split at failed
  · cases failed
    exact ⟨_, rfl⟩
  · simp only at failed
    split at failed
    · rename_i raw _ _ e _
      cases failed
      exact ⟨debug (String.ofList (Words.trim raw.toList)) ++ " is not hex: " ++ e.toString, by simp only [String.append_assoc]⟩
    · rename_i value _
      split at failed
      · cases failed
        refine ⟨"0x" ++ hex 1 value ++ " does not fit the expected width", ?_⟩
        have joined : ": 0x" = ": " ++ "0x" := rfl
        simp only [String.append_assoc, joined]
      · cases failed

theorem readable_u16 {v : UInt16} (read : readHex debug tryU16 files dir attr = .ok v) : ∃ n < 65536, files.Reads dir attr n :=
  ⟨v.toNat, v.toNat_lt, readHex_u16.mp read⟩

theorem readable_u8 {v : UInt8} (read : readHex debug tryU8 files dir attr = .ok v) : ∃ n < 256, files.Reads dir attr n :=
  ⟨v.toNat, v.toNat_lt, readHex_u8.mp read⟩

theorem unreadable_u16 {e : HidError} (failed : readHex debug tryU16 files dir attr = .error e) :
    ¬∃ n < 65536, files.Reads dir attr n := by
  rintro ⟨n, small, spelled⟩
  rw [← UInt16.toNat_ofNat_of_lt' small] at spelled
  rw [readHex_u16.mpr spelled] at failed
  cases failed

theorem unreadable_u8 {e : HidError} (failed : readHex debug tryU8 files dir attr = .error e) :
    ¬∃ n < 256, files.Reads dir attr n := by
  rintro ⟨n, small, spelled⟩
  rw [← UInt8.toNat_ofNat_of_lt' small] at spelled
  rw [readHex_u8.mpr spelled] at failed
  cases failed

/-- The only errors are about an attribute of a USB interface, and they name it. -/
theorem interfaceInfo_eq_error {hidrawName : String} {e : HidError}
    (failed : interfaceInfo debug files hidrawName = .error e) : files.Faulty hidrawName e := by
  by_cases usb : ∃ name usb, files.OnUsb hidrawName name usb
  · obtain ⟨name, usb, onUsb⟩ := usb
    refine ⟨name, usb, onUsb, ?_⟩
    rw [interfaceInfo_onUsb onUsb] at failed
    rcases Prog.except_bind_error.mp failed with unread | ⟨_, vendor, failed⟩
    · exact ⟨[], usb, "idVendor", 65536, _, rfl, by simp, unreadable_u16 unread, readHex_error unread⟩
    rcases Prog.except_bind_error.mp failed with unread | ⟨_, product, failed⟩
    · exact ⟨[(usb, "idVendor", 65536)], usb, "idProduct", 65536, _, rfl, by simpa using readable_u16 vendor,
        unreadable_u16 unread, readHex_error unread⟩
    rcases Prog.except_bind_error.mp failed with unread | ⟨_, number, failed⟩
    · exact ⟨[(usb, "idVendor", 65536), (usb, "idProduct", 65536)], name :: usb, "bInterfaceNumber", 256, _, rfl,
        by simpa using ⟨readable_u16 vendor, readable_u16 product⟩, unreadable_u8 unread, readHex_error unread⟩
    rcases Prog.except_bind_error.mp failed with unread | ⟨_, _, returned⟩
    · exact ⟨[(usb, "idVendor", 65536), (usb, "idProduct", 65536), (name :: usb, "bInterfaceNumber", 256)], name :: usb,
        "bInterfaceProtocol", 256, [], rfl, by simpa using ⟨readable_u16 vendor, readable_u16 product, readable_u8 number⟩,
        unreadable_u8 unread, readHex_error unread⟩
    · cases returned
  · rw [interfaceInfo_offUsb fun name above onUsb => usb ⟨name, above, onUsb⟩] at failed
    cases failed

theorem passed_iff {vid pid : UInt16} {interface : UInt8} {hidrawName : String} :
    Passed (interfaceInfo debug files) vid pid interface hidrawName ↔ files.PassedOver vid pid interface hidrawName := by
  simp only [Passed, SysFiles.PassedOver, interfaceInfo_eq_none, interfaceInfo_eq_some]

theorem source_steady {S : Type u} {view : S → SysFiles} (still : ∀ s, view s = files) :
    (source debug view).Steady (hidrawNames files) (interfaceInfo debug files) where
  listing s := by simp only [source, still]
  infos name s := by simp only [source, still]

/-- Names that are not Unicode are left out, and nothing else is. -/
theorem collectNames_readable (entries : List (Option String)) :
    collectNames (entries.map .ok) = .ok entries.reduceOption := by
  induction entries with
  | nil => rfl
  | cons entry rest ih =>
    cases entry with
    | none => rw [List.map_cons, collectNames, ih, List.reduceOption_cons_of_none]
    | some name =>
      rw [List.map_cons, collectNames, ih, List.reduceOption_cons_of_some]
      rfl

end RealSysfs

theorem not_isSpace_of_hexdigit {c : Char} (digit : isAsciiHexdigit c = true) : Words.isSpace c = false := by
  simp only [isAsciiHexdigit, Char.isDigit, Bool.or_eq_true, Bool.and_eq_true, decide_eq_true_eq, Char.le_def, ge_iff_le,
    UInt32.le_iff_toNat_le] at digit
  have range : 48 ≤ c.toNat ∧ c.toNat ≤ 102 := by
    have value : c.toNat = c.val.toNat := rfl
    have codes : '0'.val.toNat = 48 ∧ '9'.val.toNat = 57 ∧ 'a'.val.toNat = 97 ∧ 'f'.val.toNat = 102 ∧ 'A'.val.toNat = 65 ∧
      'F'.val.toNat = 70 := by decide
    omega
  simp only [Words.isSpace, Bool.or_eq_false_iff, Bool.and_eq_false_iff, decide_eq_false_iff_not, beq_eq_false_iff_ne]
  omega

/-- The kernel ends the text of an attribute with a line break. -/
theorem SysFiles.reads_printed {files : SysFiles} {dir : SysPath} {attr : String} {width n : Nat}
    (content : files.readToString dir attr = .ok (hex width n ++ "\n")) : files.Reads dir attr n := by
  obtain ⟨some, digits, valued⟩ := hex_spec width n
  refine ⟨_, content, ?_⟩
  have text : (hex width n ++ "\n").toList = [] ++ (hex width n).toList ++ ['\n'] := by simp
  have blank : ∀ c ∈ ['\n'], Words.isSpace c = true := by
    intro c member
    rw [List.mem_singleton.mp member]
    rfl
  have trimmed : Words.trim (hex width n ++ "\n").toList = (hex width n).toList := by
    rw [text]
    exact Words.trim_padded some (fun c member => not_isSpace_of_hexdigit (digits c member)) (by simp) blank
  rw [trimmed]
  exact ⟨[], _, (List.nil_append _).symm, by simp, some, digits, valued⟩

/-- A tree laid out by the kernel for the nodes of a fake one, listed in any order. -/
structure SysFiles.Shows (files : SysFiles) (m : MockSysfs) : Prop where
  listing : ∃ entries : List (Option String), files.readDir = .ok (entries.map .ok) ∧ entries.reduceOption.Perm m.names
  offUsb : ∀ hidrawName, m.info hidrawName = none → ∀ name usb, ¬files.OnUsb hidrawName name usb
  onUsb : ∀ hidrawName info, m.info hidrawName = some info → ∃ name usb, files.OnUsb hidrawName name usb ∧
    files.readToString usb "idVendor" = .ok (hex 4 info.vendorId.toNat ++ "\n") ∧
    files.readToString usb "idProduct" = .ok (hex 4 info.productId.toNat ++ "\n") ∧
    files.readToString (name :: usb) "bInterfaceNumber" = .ok (hex 2 info.interfaceNumber.toNat ++ "\n") ∧
    files.readToString (name :: usb) "bInterfaceProtocol" = .ok (hex 2 info.interfaceProtocol.toNat ++ "\n")

theorem SysFiles.Shows.describes {files : SysFiles} {m : MockSysfs} (shows : files.Shows m) {hidrawName : String}
    {info : UsbInterfaceInfo} (found : m.info hidrawName = some info) : files.Describes hidrawName info := by
  obtain ⟨name, usb, onUsb, vendor, product, number, protocol⟩ := shows.onUsb hidrawName info found
  exact ⟨name, usb, onUsb, reads_printed vendor, reads_printed product, reads_printed number, reads_printed protocol⟩

def keyboardDevice : SysPath :=
  ["1-2.3", "1-2", "usb1", "0000:00:14.0", "pci0000:00", "devices", "sys"]

/-- The attributes of the keyboard behind a hub and of its four interfaces. -/
def keyboardFiles : List ((SysPath × String) × String) := [
  ((keyboardDevice, "idVendor"), "1532\n"), ((keyboardDevice, "idProduct"), "028d\n"),
  ((keyboardDevice, "uevent"), "DEVTYPE=usb_device\n"), (("1-2.3:1.0" :: keyboardDevice, "uevent"), "DEVTYPE=usb_interface\n"),
  (("1-2.3:1.1" :: keyboardDevice, "uevent"), "DEVTYPE=usb_interface\n"),
  (("1-2.3:1.2" :: keyboardDevice, "uevent"), "DEVTYPE=usb_interface\n"),
  (("1-2.3:1.3" :: keyboardDevice, "uevent"), "DEVTYPE=usb_interface\n"),
  (("1-2.3:1.0" :: keyboardDevice, "bInterfaceNumber"), "00\n"), (("1-2.3:1.0" :: keyboardDevice, "bInterfaceProtocol"), "01\n"),
  (("1-2.3:1.1" :: keyboardDevice, "bInterfaceNumber"), "01\n"), (("1-2.3:1.1" :: keyboardDevice, "bInterfaceProtocol"), "00\n"),
  (("1-2.3:1.2" :: keyboardDevice, "bInterfaceNumber"), "02\n"), (("1-2.3:1.2" :: keyboardDevice, "bInterfaceProtocol"), "00\n"),
  (("1-2.3:1.3" :: keyboardDevice, "bInterfaceNumber"), "03\n"), (("1-2.3:1.3" :: keyboardDevice, "bInterfaceProtocol"), "02\n")]

def keyboardTree : SysFiles where
  readDir := .ok ([some "hidraw3", some "hidraw0", none, some "hidraw2", some "hidraw1"].map .ok)
  canonicalize hidrawName :=
    ([("hidraw0", "1-2.3:1.0"), ("hidraw1", "1-2.3:1.1"), ("hidraw2", "1-2.3:1.2"), ("hidraw3", "1-2.3:1.3")].lookup hidrawName).map
      fun name => "0003:1532:028D.0004" :: name :: keyboardDevice
  isFile dir attr := (keyboardFiles.lookup (dir, attr)).isSome
  readToString dir attr :=
    match keyboardFiles.lookup (dir, attr) with
    | none => .error "No such file or directory (os error 2)"
    | some text => .ok text

theorem keyboardTree_listed {dir : SysPath} {attr : String} (here : keyboardTree.isFile dir attr = true) :
    ∃ text, ((dir, attr), text) ∈ keyboardFiles := by
  obtain ⟨text, found⟩ := Option.isSome_iff_exists.mp here
  obtain ⟨before, after, split, _⟩ := List.lookup_eq_some_iff.mp found
  exact ⟨text, split ▸ List.mem_append_right _ (List.mem_cons_self ..)⟩

/-- A HID device directly below its interface. -/
theorem SysFiles.owns_parent {files : SysFiles} {hidrawName hid name : String} {usb : SysPath}
    (resolves : files.canonicalize hidrawName = some (hid :: name :: usb))
    (plain : files.isFile (hid :: name :: usb) "bInterfaceNumber" = false)
    (numbered : files.isFile (name :: usb) "bInterfaceNumber" = true) : files.Owns hidrawName name usb := by
  refine ⟨[hid], resolves, by simp [MAX_ANCESTOR_WALK], numbered, ?_⟩
  intro nearer farther split some
  obtain ⟨rfl, rfl⟩ | ⟨_, empty⟩ := List.singleton_eq_append_iff.mp split
  · exact plain
  · exact absurd empty some

/-- Nothing is known of any other name. -/
theorem keyboardTree_known (hidrawName : String) : hidrawName ∈ ["hidraw0", "hidraw1", "hidraw2", "hidraw3"] ∨
    (MockSysfs.blackwidowV4Pro.info hidrawName = none ∧ keyboardTree.canonicalize hidrawName = none) := by
  by_cases known : hidrawName ∈ ["hidraw0", "hidraw1", "hidraw2", "hidraw3"]
  · exact Or.inl known
  · simp only [List.mem_cons, List.not_mem_nil, or_false, not_or] at known
    obtain ⟨no0, no1, no2, no3⟩ := known
    refine Or.inr ⟨?_, ?_⟩
    · simp [MockSysfs.info, MockSysfs.blackwidowV4Pro, MockSysfs.withNode, Ne.symm no0, Ne.symm no1, Ne.symm no2, Ne.symm no3]
    · simp [keyboardTree, List.lookup_cons, beq_false_of_ne no0, beq_false_of_ne no1, beq_false_of_ne no2, beq_false_of_ne no3]

theorem keyboardTree_device {dir : SysPath} (here : keyboardTree.isFile dir "idVendor" = true) : dir = keyboardDevice := by
  obtain ⟨text, member⟩ := keyboardTree_listed here
  have only : ∀ file ∈ keyboardFiles, file.1.2 = "idVendor" → file.1.1 = keyboardDevice := by decide
  exact only _ member rfl

theorem keyboardTree_shows : keyboardTree.Shows .blackwidowV4Pro := by
  refine ⟨⟨_, rfl, by decide⟩, ?_, ?_⟩
  · intro hidrawName absent name usb onUsb
    obtain ⟨⟨below, resolves, _⟩, _⟩ := onUsb
    rcases keyboardTree_known hidrawName with known | ⟨_, unresolved⟩
    · simp only [List.mem_cons, List.not_mem_nil, or_false] at known
      rcases known with rfl | rfl | rfl | rfl <;> cases absent
    · rw [unresolved] at resolves
      cases resolves
  · intro hidrawName info found
    rcases keyboardTree_known hidrawName with known | ⟨absent, _⟩
    · simp only [List.mem_cons, List.not_mem_nil, or_false] at known
      rcases known with rfl | rfl | rfl | rfl
      all_goals
        cases found
        exact ⟨_, _, ⟨SysFiles.owns_parent rfl rfl rfl, rfl⟩, rfl, rfl, rfl, rfl⟩
    · rw [absent] at found
      cases found

namespace RealSysfs
variable {files : SysFiles} {debug : String → String}

theorem interfaceInfo_shows {m : MockSysfs} (shows : files.Shows m) (hidrawName : String) :
    interfaceInfo debug files hidrawName = .ok (m.info hidrawName) := by
  cases info : m.info hidrawName with
  | none => exact interfaceInfo_offUsb (shows.offUsb hidrawName info)
  | some found =>
    exact interfaceInfo_eq_some.mpr (shows.describes info)

theorem listAmong_congr {S : Type u} {sysfs sysfs' : SysfsSource S} (infos : sysfs.interfaceInfo = sysfs'.interfaceInfo)
    (paths : sysfs.devicePath = sysfs'.devicePath) (names : List String) : listAmong sysfs names = listAmong sysfs' names := by
  induction names with
  | nil => rfl
  | cons name rest ih => rw [listAmong, listAmong, infos, paths, ih]

theorem hidrawNames_listed {entries : List (Option String)} (listed : files.readDir = .ok (entries.map .ok)) :
    hidrawNames files = .ok entries.reduceOption := by
  rw [hidrawNames, listed]
  exact collectNames_readable entries

theorem findDevice_shows {m : MockSysfs} (shows : files.Shows m) (vid pid : UInt16) (interface : UInt8) :
    (findDevice (source debug fun _ : Unit => files) vid pid interface ()).1 = (findDevice m.source vid pid interface ()).1 := by
  obtain ⟨entries, listed, perm⟩ := shows.listing
  have infos : interfaceInfo debug files = fun name => .ok (m.info name) := funext (interfaceInfo_shows shows)
  have steady : (source debug fun _ : Unit => files).Steady (.ok entries.reduceOption) fun name => .ok (m.info name) := by
    rw [← hidrawNames_listed listed, ← infos]
    exact source_steady fun _ => rfl
  have walked : Search (source debug fun _ : Unit => files) _ vid pid interface _ _ := findDevice_search steady ()
  have faked : Search m.source _ vid pid interface _ _ := findDevice_search m.source_steady ()
  rw [sortByIndex_congr perm] at walked
  have paths : m.source.devicePath = (source debug fun _ : Unit => files).devicePath := rfl
  exact walked.unique (faked.of_paths paths)

theorem listRazerNodes_shows {m : MockSysfs} (shows : files.Shows m) :
    (listRazerNodes (source debug fun _ : Unit => files) ()).1 = (listRazerNodes m.source ()).1 := by
  obtain ⟨entries, listed, perm⟩ := shows.listing
  have lists : (source debug fun _ : Unit => files).hidrawNames () = (.ok entries.reduceOption, ()) := by
    rw [← hidrawNames_listed listed]
    rfl
  have asks : (source debug fun _ : Unit => files).interfaceInfo = m.source.interfaceInfo := by
    funext name s
    simp only [source, interfaceInfo_shows shows]
    rfl
  rw [listRazerNodes, listRazerNodes, Prog.bind_of_ok lists, Prog.bind_of_ok (rfl : m.source.hidrawNames () = _),
    sortByIndex_congr perm, listAmong_congr asks rfl]

/-- Over a tree laid out by the kernel the real walker finds and lists what the
fake one does, so what holds of the fake one holds of it. -/
theorem agrees_with_mock {m : MockSysfs} (shows : files.Shows m) (vid pid : UInt16) (interface : UInt8) :
    (findDevice (source debug fun _ : Unit => files) vid pid interface ()).1 = (findDevice m.source vid pid interface ()).1 ∧
      (listRazerNodes (source debug fun _ : Unit => files) ()).1 = (listRazerNodes m.source ()).1 :=
  ⟨findDevice_shows shows vid pid interface, listRazerNodes_shows shows⟩

/-- The keyboard's nodes are listed out of order, and one name is not Unicode. -/
theorem agrees_with_mock_keyboard :
    (findDevice (source id fun _ : Unit => keyboardTree) VENDOR_ID 0x028D 3 ()).1 =
      (findDevice MockSysfs.blackwidowV4Pro.source VENDOR_ID 0x028D 3 ()).1 :=
  (agrees_with_mock keyboardTree_shows VENDOR_ID 0x028D 3).1

/-- What the search finds in a tree that stands still, read off its files: the
node with the least number whose interface is the one asked for, unless a file
that is not a number comes first. -/
theorem findDevice_reads_tree {S : Type u} {view : S → SysFiles} {entries : List (Option String)} (still : ∀ s, view s = files)
    (listed : files.readDir = .ok (entries.map .ok)) (vid pid : UInt16) (interface : UInt8) (s : S) :
    (∀ node, (findDevice (source debug view) vid pid interface s).1 = .ok node ↔
      some node.name ∈ entries ∧ node.path = "/dev/" ++ node.name ∧ files.Describes node.name node.info ∧
        node.info.Is vid pid interface ∧
        ∀ other, some other ∈ entries → sortKey other < sortKey node.name → files.PassedOver vid pid interface other) ∧
    ((findDevice (source debug view) vid pid interface s).1 = .error (.deviceNotFound vid pid interface) ↔
      ∀ name, some name ∈ entries → files.PassedOver vid pid interface name) ∧
    (∀ e, (findDevice (source debug view) vid pid interface s).1 = .error e → e ≠ .deviceNotFound vid pid interface →
      ∃ name, some name ∈ entries ∧ files.Faulty name e ∧
        ∀ other, some other ∈ entries → sortKey other < sortKey name → files.PassedOver vid pid interface other) := by
  have steady : (source debug view).Steady (.ok entries.reduceOption) (interfaceInfo debug files) :=
    hidrawNames_listed listed ▸ source_steady still
  have mem (name : String) : name ∈ entries.reduceOption ↔ some name ∈ entries := List.reduceOption_mem_iff
  have documented (name : String) : interfaceInfo debug files name ≠ .error (.deviceNotFound vid pid interface) := by
    intro failed
    obtain ⟨_, _, _, _, _, _, _, _, _, _, _, _, other⟩ := interfaceInfo_eq_error failed
    cases other
  have sorted (name : String) : name ∈ sortByIndex entries.reduceOption ↔ some name ∈ entries :=
    (sortByIndex_perm _).mem_iff.trans (mem name)
  have search : Search (source debug view) (interfaceInfo debug files) vid pid interface _ _ := findDevice_search steady s
  refine ⟨?_, ?_, ?_⟩
  · intro node
    rw [search.found_iff, interfaceInfo_eq_some]
    constructor
    · rintro ⟨stop, describes, is, path⟩
      obtain ⟨member, lower⟩ := firstStop_sorted.mp stop
      refine ⟨(mem _).mp member, path, describes, is, ?_⟩
      intro other listed below
      exact passed_iff.mp (lower other ((mem _).mpr listed) below)
    · rintro ⟨member, path, describes, is, lower⟩
      refine ⟨firstStop_sorted.mpr ⟨(mem _).mpr member, ?_⟩, describes, is, path⟩
      intro other listed below
      exact passed_iff.mpr (lower other ((mem _).mp listed) below)
  · rw [search.failed_iff]
    simp only [sorted, passed_iff]
    constructor
    · rintro (⟨_, each⟩ | ⟨name, _, fails⟩)
      · exact each
      · exact absurd fails (documented name)
    · exact fun each => Or.inl ⟨trivial, each⟩
  · intro e error other
    rcases search.failed_iff.mp error with ⟨absent, _⟩ | ⟨name, stop, fails⟩
    · exact absurd absent other
    · obtain ⟨member, lower⟩ := firstStop_sorted.mp stop
      refine ⟨name, (mem _).mp member, interfaceInfo_eq_error fails, ?_⟩
      intro other listed below
      exact passed_iff.mp (lower other ((mem _).mpr listed) below)

/-- The keyboard's control node comes after three of its other interfaces. -/
theorem findDevice_reads_tree_keyboard : (findDevice (source id fun _ : Unit => keyboardTree) VENDOR_ID 0x028D 3 ()).1 =
    .ok ⟨"hidraw3", "/dev/hidraw3", MockSysfs.usb 0x028D 3 0x02⟩ := by
  have tree := keyboardTree_shows
  refine ((findDevice_reads_tree (fun _ => rfl) rfl VENDOR_ID 0x028D 3 ()).1 _).mpr
    ⟨by decide, by decide, tree.describes rfl, by decide, ?_⟩
  intro other listed lower
  simp only [List.mem_cons, List.not_mem_nil, or_false, Option.some.injEq, reduceCtorEq, false_or] at listed
  rcases listed with rfl | rfl | rfl | rfl
  · exact absurd lower (lt_irrefl _)
  · exact Or.inr ⟨_, tree.describes rfl, by decide⟩
  · exact Or.inr ⟨_, tree.describes rfl, by decide⟩
  · exact Or.inr ⟨_, tree.describes rfl, by decide⟩

theorem found_describes {S : Type u} {view : S → SysFiles} (still : ∀ s, view s = files) {vid pid : UInt16}
    {interface : UInt8} {s : S} {node : HidrawNode} (found : (findDevice (source debug view) vid pid interface s).1 = .ok node) :
    files.Describes node.name node.info ∧ node.info.Is vid pid interface := by
  have steady : (source debug view).Steady (hidrawNames files) (interfaceInfo debug files) := source_steady still
  cases names : hidrawNames files with
  | error e =>
    obtain ⟨t, lists⟩ := steady.lists s
    rw [names] at lists
    rw [findDevice, Prog.bind_of_error lists] at found
    cases found
  | ok names' =>
    rw [names] at steady
    have search : Search (source debug view) (interfaceInfo debug files) vid pid interface _ _ := findDevice_search steady s
    obtain ⟨_, resolves, is, _⟩ := search.found_iff.mp found
    exact ⟨interfaceInfo_eq_some.mp resolves, is⟩

/-- A longer path has a longer text. -/
theorem byteLen_cons {path : SysPath} (component : String) (enough : 4 < SysPath.byteLen path) :
    4 < SysPath.byteLen (component :: path) := by
  have start (n : Nat) (rest : SysPath) : rest.foldl (fun n component => n + component.utf8ByteSize + 1) n =
      n + rest.foldl (fun n component => n + component.utf8ByteSize + 1) 0 := by
    induction rest generalizing n with
    | nil => rfl
    | cons first rest ih =>
      rw [List.foldl_cons, List.foldl_cons, ih, ih (0 + _ + 1)]
      omega
  by_cases empty : path = []
  · rw [SysPath.byteLen, if_pos empty] at enough
    omega
  · rw [SysPath.byteLen, if_neg empty] at enough
    rw [SysPath.byteLen, if_neg (by simp), List.foldl_cons, start]
    omega

/-- The climb passes an interface and all below it, and stops at its device. -/
theorem climb_device {tree : SysTree} {name : String} {usb : SysPath} (below : SysPath)
    (device : tree.devnumExists usb = true) (leaf : ∀ below, tree.devnumExists (below ++ name :: usb) = false)
    (inside : 4 < SysPath.byteLen usb) : climb tree (below ++ name :: usb) = some usb := by
  have here : climb tree usb = some usb := by
    cases usb with
    | nil => rw [climb, if_pos device]
    | cons component parent => rw [climb, if_pos device]
  have up : climb tree (name :: usb) = some usb := by
    have absent := leaf []
    rw [List.nil_append] at absent
    rw [climb, if_neg (by simp [absent]), if_neg (by omega), here]
  have reach : 4 < SysPath.byteLen (below ++ name :: usb) ∧ climb tree (below ++ name :: usb) = some usb := by
    induction below with
    | nil => exact ⟨byteLen_cons name inside, up⟩
    | cons component below ih =>
      obtain ⟨enough, climbs⟩ := ih
      have absent := leaf (component :: below)
      rw [List.cons_append] at absent ⊢
      refine ⟨byteLen_cons component enough, ?_⟩
      rw [climb, if_neg (by simp [absent]), if_neg (by omega), climbs]
  exact reach.2

/-- The devnum that is shown of a found node is that of the very device whose
vendor and product ids it was found by. -/
theorem found_device_devnum {S : Type u} {view : S → SysFiles} {tree : SysTree} {vid pid : UInt16} {interface : UInt8}
    {s : S} {node : HidrawNode} (still : ∀ s, view s = files)
    (found : (findDevice (source debug view) vid pid interface s).1 = .ok node)
    (links : tree.canonicalize = files.canonicalize)
    -- A USB device has its `idVendor` and its `devnum` together, and none is below an interface.
    (device : ∀ dir, tree.devnumExists dir = files.isFile dir "idVendor")
    (leaf : ∀ below dir, files.isFile dir "bInterfaceNumber" = true → files.isFile (below ++ dir) "idVendor" = false)
    (inside : ∀ dir, files.isFile dir "idVendor" = true → 4 < SysPath.byteLen dir) :
    ∃ name usb, files.OnUsb node.name name usb ∧ files.Reads usb "idVendor" vid.toNat ∧ files.Reads usb "idProduct" pid.toNat ∧
      files.Reads (name :: usb) "bInterfaceNumber" interface.toNat ∧ usbParentDir tree node.name = some usb ∧
      (∃ start, tree.canonicalize node.name = some start ∧ Nearest tree start usb) ∧
      ∀ unicode, (readSysfsState unicode tree node.name pid).1 = (tree.readDevnum usb).bind fun text => parseU64 (Words.trim text.toList) := by
  obtain ⟨⟨name, usb, onUsb, vendor, product, number, _⟩, rfl, rfl, rfl⟩ := found_describes still found
  obtain ⟨⟨below, resolves, _, numbered, _⟩, identified⟩ := id onUsb
  have climbed : usbParentDir tree node.name = some usb := by
    rw [usbParentDir, links, resolves, Option.bind_some]
    refine climb_device below (by rw [device, identified]) ?_ (inside usb identified)
    intro farther
    rw [device]
    exact leaf farther _ numbered
  obtain ⟨start, begins, ends⟩ := Option.bind_eq_some_iff.mp climbed
  obtain ⟨_, _, nearest⟩ := climb_eq_some ends
  refine ⟨name, usb, onUsb, vendor, product, number, climbed, ⟨start, begins, nearest⟩, ?_⟩
  intro unicode
  rw [readSysfsState, climbed, Option.bind_some]

/-- The keyboard's entry has a device number, next to its ids. -/
def keyboardState : SysTree where
  canonicalize := keyboardTree.canonicalize
  devnumExists dir := keyboardTree.isFile dir "idVendor"
  readDevnum _ := some "7\n"
  readHidDevices := none

theorem found_device_devnum_keyboard : ∃ name usb, keyboardTree.OnUsb "hidraw3" name usb ∧
    keyboardTree.Reads usb "idVendor" 0x1532 ∧ keyboardTree.Reads usb "idProduct" 0x028D ∧
    keyboardTree.Reads (name :: usb) "bInterfaceNumber" 3 ∧ usbParentDir keyboardState "hidraw3" = some usb ∧
    (∃ start, keyboardState.canonicalize "hidraw3" = some start ∧ Nearest keyboardState start usb) ∧
    ∀ unicode, (readSysfsState unicode keyboardState "hidraw3" 0x028D).1 = some 7 := by
  have numbered {dir : SysPath} (here : keyboardTree.isFile dir "bInterfaceNumber" = true) : dir.length = 8 := by
    obtain ⟨text, member⟩ := keyboardTree_listed here
    have only : ∀ file ∈ keyboardFiles, file.1.2 = "bInterfaceNumber" → file.1.1.length = 8 := by decide
    exact only _ member rfl
  have control : (findDevice (source id fun _ : Unit => keyboardTree) 0x1532 0x028D 3 ()).1 =
      .ok ⟨"hidraw3", "/dev/hidraw3", MockSysfs.usb 0x028D 3 0x02⟩ :=
    (findDevice_shows keyboardTree_shows 0x1532 0x028D 3).trans (by decide)
  refine found_device_devnum (fun _ => rfl) control rfl (fun _ => rfl) ?_ ?_
  · intro below dir interface
    rw [Bool.eq_false_iff]
    intro device
    have longer := congrArg List.length (keyboardTree_device device)
    have same := numbered interface
    have length : keyboardDevice.length = 7 := rfl
    rw [List.length_append, same, length] at longer
    omega
  · intro dir device
    rw [keyboardTree_device device]
    decide

end RealSysfs

end OpenRazer
