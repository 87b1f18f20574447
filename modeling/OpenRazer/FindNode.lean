import OpenRazer.DriverMatch
import OpenRazer.Python
import OpenRazer.UdevRules

/-! How `tools/validate_hidraw.py` chooses the node that it talks to, against the
search of the driver. -/

namespace OpenRazer

open Python

/-- What the harness reads of `/dev` and `/sys` at one moment. -/
structure NodeFiles where
  /-- `/dev/hidraw*` -/
  nodes : List String
  /-- `/sys/class/hidraw/NAME/device/uevent` -/
  uevent : String → Option String
  /-- `/sys/class/hidraw/NAME/device` with its links resolved. -/
  realpath : String → SysPath
  /-- `/sys/bus/usb/devices/NAME/bInterfaceNumber` -/
  interfaceNumber : String → Option String

namespace ValidateHidraw

def VID : Nat := 0x1532

def PID : Nat := 0x028D

/-- `'%04X:%08X' % (VID, PID)`. -/
def ids : List Char :=
  (hexUpper 4 VID).toList ++ ':' :: (hexUpper 8 PID).toList

/-- The body of the loop of `find_node`, with the interface of the node if it is
the one wanted. What cannot be read is passed over. -/
def check (files : NodeFiles) (ifaceWanted : Int) (name : String) : Option String := do
  let ue ← files.uevent name
  if ¬ids <:+: ue.toList.map Char.toUpper then none
  else
    let usbIface := (files.realpath name).getD 1 ""
    let n ← int? (strip (← files.interfaceNumber usbIface))
    if n = ifaceWanted then some usbIface else none

def findNode (files : NodeFiles) (ifaceWanted : Int) : Option (String × String) :=
  (files.nodes.mergeSort fun a b => decide (a ≤ b)).findSome? fun name =>
    (check files ifaceWanted name).map fun usbIface => ("/dev/" ++ name, usbIface)

end ValidateHidraw

theorem length_hexUpper {width n : Nat} (some : 0 < width) (fits : n < 16 ^ width) : (hexUpper width n).toList.length = width := by
  have short := Nat.toDigits_length 16 n width some fits
  simp only [hexUpper, hex, String.toList_ofList, List.length_map, List.length_append, List.length_replicate]
  omega

namespace ValidateHidraw

/-- Of a vendor only the last four digits are asked for, but there are no more. -/
theorem ids_infix_iff {vendor product : Nat} (vendorFits : vendor < 65536) (productFits : product < 65536) :
    ids <:+: (hexUpper 8 vendor).toList ++ ':' :: (hexUpper 8 product).toList ↔ vendor = VID ∧ product = PID := by
  have colon {width n : Nat} : ':' ∉ (hexUpper width n).toList := not_mem_hexUpper (by decide)
  constructor
  · rintro ⟨front, back, split⟩
    have once := congrArg (List.count ':') split
    simp only [ids, List.count_append, List.count_cons_self, List.count_eq_zero.mpr colon] at once
    have absent : ':' ∉ front ++ (hexUpper 4 VID).toList := by
      have outside : ':' ∉ front := List.count_eq_zero.mp (by omega)
      simp only [List.mem_append, not_or]
      exact ⟨outside, colon⟩
    have cut : (front ++ (hexUpper 4 VID).toList) ++ ':' :: ((hexUpper 8 PID).toList ++ back) =
        (hexUpper 8 vendor).toList ++ ':' :: (hexUpper 8 product).toList := by
      rw [← split, ids]
      simp only [List.append_assoc, List.cons_append]
    obtain ⟨left, right⟩ := (Fields.append_mark_inj absent colon).mp cut
    have vendorValue := congrArg (fun text => Numeral.value 16 (text.map hexDigit)) left
    simp only [List.map_append, Numeral.value_append, List.length_map, (hexUpper_spec _ _).1] at vendorValue
    rw [length_hexUpper (by decide) (by decide)] at vendorValue
    have nothing : back = [] := by
      have lengths := congrArg List.length right
      rw [List.length_append, length_hexUpper (by decide) (by decide), length_hexUpper (by decide) (by omega)] at lengths
      exact List.length_eq_zero_iff.mp (by omega)
    have productValue := congrArg (fun text => Numeral.value 16 (text.map hexDigit)) right
    simp only [nothing, List.append_nil, (hexUpper_spec _ _).1] at productValue
    refine ⟨?_, productValue.symm⟩
    have known : VID = 0x1532 := rfl
    omega
  · rintro ⟨rfl, rfl⟩
    exact ⟨"0000".toList, [], by decide⟩

/-- The kernel prints the number in hexadecimal and the harness reads it as a decimal. -/
theorem decimal_of_hex : (∀ i < 10, int? (strip (hex 2 i ++ "\n")) = some (i : Int)) ∧
    ∀ i < 256, ∀ n ∈ int? (strip (hex 2 i ++ "\n")), n = i ∨ 10 ≤ n := by
  have line : "\n".toList = ['\n'] := rfl
  simp only [int?, strip, hex, String.toList_ofList, String.toList_append, line]
  decide +kernel

/-- The ids of a USB device as the kernel writes them into the `uevent` of its HID devices. -/
def idsOf (info : UsbInterfaceInfo) : List Char :=
  (hexUpper 8 info.vendorId.toNat).toList ++ ':' :: (hexUpper 8 info.productId.toNat).toList

/-- How the kernel shows the same nodes to the harness. -/
structure Lays (files : NodeFiles) (tree : SysFiles) (m : MockSysfs) : Prop where
  nodes : files.nodes.Perm m.names
  /-- Nothing else in a `uevent` looks like the ids. -/
  uevent : ∀ name info, m.info name = some info → ∃ front back,
    files.uevent name = some (String.ofList (front ++ idsOf info ++ back)) ∧
      (ids <:+: (front ++ idsOf info ++ back).map Char.toUpper → ids <:+: idsOf info)
  realpath : ∀ name path, tree.canonicalize name = some path → files.realpath name = path
  /-- A keyboard's HID devices are directly below its interfaces. -/
  below : ∀ name info, m.info name = some info → info.vendorId = VENDOR_ID → ∃ hid iface usb,
    tree.canonicalize name = some (hid :: iface :: usb) ∧ tree.OnUsb name iface usb
  link : ∀ name iface usb text, tree.OnUsb name iface usb → tree.readToString (iface :: usb) "bInterfaceNumber" = .ok text →
    files.interfaceNumber iface = some text
  offUsb : ∀ name, m.info name = none → files.interfaceNumber ((files.realpath name).getD 1 "") = none

/-- The node is one of that interface of a keyboard. -/
def Control (m : MockSysfs) (interface : UInt8) (name : String) : Prop :=
  ∃ info, m.info name = some info ∧ info.Is VENDOR_ID 0x028D interface

section

variable {files : NodeFiles} {tree : SysFiles} {m : MockSysfs} {interface : UInt8} {name usbIface : String}

theorem ids_shown {info : UsbInterfaceInfo} {front back : List Char}
    (only : ids <:+: (front ++ idsOf info ++ back).map Char.toUpper → ids <:+: idsOf info) :
    ids <:+: (front ++ idsOf info ++ back).map Char.toUpper ↔ info.vendorId = VENDOR_ID ∧ info.productId = 0x028D := by
  have same : ids <:+: idsOf info ↔ info.vendorId = VENDOR_ID ∧ info.productId = 0x028D := by
    rw [idsOf, ids_infix_iff info.vendorId.toNat_lt info.productId.toNat_lt, ← UInt16.toNat_inj, ← UInt16.toNat_inj]
    rfl
  constructor
  · exact fun shown => same.mp (only shown)
  · rintro ⟨vendor, product⟩
    obtain ⟨before, after, split⟩ := same.mpr ⟨vendor, product⟩
    have upper : ids.map Char.toUpper = ids := by decide
    refine ⟨(front ++ before).map Char.toUpper, (after ++ back).map Char.toUpper, ?_⟩
    rw [← split]
    conv => lhs; rw [← upper]
    simp only [List.map_append, List.append_assoc]

theorem check_offUsb (lays : Lays files tree m) (known : m.info name = none) (wanted : Int) : check files wanted name = none := by
  unfold check
  cases files.uevent name with
  | none => rfl
  | some ue =>
    simp only [lays.offUsb name known]
    simp

theorem check_other (lays : Lays files tree m) {info : UsbInterfaceInfo} (known : m.info name = some info)
    (other : ¬(info.vendorId = VENDOR_ID ∧ info.productId = 0x028D)) (wanted : Int) : check files wanted name = none := by
  obtain ⟨front, back, uevent, only⟩ := lays.uevent name info known
  simp only [check, uevent, Option.bind_eq_bind, Option.bind_some, String.toList_ofList, ids_shown only, other, not_false_eq_true, if_true]

/-- Of a keyboard's node only the number of its interface is left to check. -/
theorem check_keyboard (lays : Lays files tree m) (shows : tree.Shows m) {info : UsbInterfaceInfo} (known : m.info name = some info)
    (keyboard : info.vendorId = VENDOR_ID ∧ info.productId = 0x028D) (wanted : Int) : ∃ iface usb, tree.OnUsb name iface usb ∧
      check files wanted name = if int? (strip (hex 2 info.interfaceNumber.toNat ++ "\n")) = some wanted then some iface else none := by
  obtain ⟨front, back, uevent, only⟩ := lays.uevent name info known
  obtain ⟨hid, iface, usb, resolves, onUsb⟩ := lays.below name info known keyboard.1
  obtain ⟨iface', usb', onUsb', _, _, printed, _⟩ := shows.onUsb name info known
  obtain ⟨rfl, rfl⟩ := RealSysfs.owns_unique onUsb.1 onUsb'.1
  have number := lays.link name iface usb _ onUsb printed
  have path : (files.realpath name).getD 1 "" = iface := by
    rw [lays.realpath name _ resolves]
    rfl
  refine ⟨iface, usb, onUsb, ?_⟩
  simp only [check, uevent, Option.bind_eq_bind, Option.bind_some, String.toList_ofList, (ids_shown only).mpr keyboard,
    not_true_eq_false, if_false, path, number]
  cases int? (strip (hex 2 info.interfaceNumber.toNat ++ "\n")) with
  | none => rfl
  | some n => simp only [Option.bind_some, Option.some.injEq]

theorem number_read_iff {number : UInt8} (small : interface.toNat < 10) :
    int? (strip (hex 2 number.toNat ++ "\n")) = some (interface.toNat : Int) ↔ number = interface := by
  constructor
  · intro read
    rcases decimal_of_hex.2 _ number.toNat_lt _ read with same | large
    · exact (UInt8.toNat_inj.mp (by omega)).symm
    · omega
  · rintro rfl
    exact decimal_of_hex.1 _ small

theorem check_eq_some (lays : Lays files tree m) (shows : tree.Shows m) (small : interface.toNat < 10) :
    check files interface.toNat name = some usbIface ↔ Control m interface name ∧ ∃ usb, tree.OnUsb name usbIface usb := by
  cases known : m.info name with
  | none => simp [check_offUsb lays known, Control, known]
  | some info =>
    by_cases keyboard : info.vendorId = VENDOR_ID ∧ info.productId = 0x028D
    · obtain ⟨iface, usb, onUsb, checked⟩ := check_keyboard lays shows known keyboard interface.toNat
      rw [checked, Option.ite_none_right_eq_some, number_read_iff small, Option.some.injEq]
      constructor
      · rintro ⟨here, rfl⟩
        exact ⟨⟨info, known, keyboard.1, keyboard.2, here⟩, usb, onUsb⟩
      · rintro ⟨⟨info', known', _, _, here⟩, usb', onUsb'⟩
        obtain rfl := Option.some.inj (known.symm.trans known')
        exact ⟨here, (RealSysfs.owns_unique onUsb.1 onUsb'.1).1⟩
    · rw [check_other lays known keyboard]
      simp only [reduceCtorEq, false_iff]
      rintro ⟨⟨info', known', vendor, product, _⟩, _⟩
      obtain rfl := Option.some.inj (known.symm.trans known')
      exact keyboard ⟨vendor, product⟩

theorem check_eq_none (lays : Lays files tree m) (shows : tree.Shows m) (small : interface.toNat < 10) :
    check files interface.toNat name = none ↔ ¬Control m interface name := by
  rw [Option.eq_none_iff_forall_ne_some]
  constructor
  · rintro none control
    obtain ⟨info, known, is⟩ := id control
    obtain ⟨_, iface, usb, _, onUsb⟩ := lays.below name info known is.1
    exact none iface ((check_eq_some lays shows small).mpr ⟨control, usb, onUsb⟩)
  · intro other usbIface checked
    exact other ((check_eq_some lays shows small).mp checked).1

/-- The harness takes the first node in the order of the names' texts. -/
theorem findNode_eq_some (lays : Lays files tree m) (shows : tree.Shows m) (small : interface.toNat < 10) {path : String} :
    findNode files interface.toNat = some (path, usbIface) ↔ ∃ name ∈ m.names, path = "/dev/" ++ name ∧ Control m interface name ∧
      (∃ usb, tree.OnUsb name usbIface usb) ∧ ∀ other ∈ m.names, other < name → ¬Control m interface other := by
  have least (name : String) : _ ↔ name ∈ files.nodes ∧ ∀ other ∈ files.nodes, other < name → ¬Control m interface other :=
    Collections.mergeSort_split
  simp only [lays.nodes.mem_iff] at least
  rw [findNode, List.findSome?_eq_some_iff]
  simp only [Option.map_eq_none_iff, check_eq_none lays shows small]
  constructor
  · rintro ⟨before, name, after, split, checked, each⟩
    obtain ⟨iface, here, same⟩ := Option.map_eq_some_iff.mp checked
    obtain ⟨rfl, rfl⟩ := Prod.mk.inj same
    obtain ⟨control, owner⟩ := (check_eq_some lays shows small).mp here
    obtain ⟨member, lower⟩ := (least name).mp ⟨before, after, split, each⟩
    exact ⟨name, member, rfl, control, owner, lower⟩
  · rintro ⟨name, member, rfl, control, owner, lower⟩
    obtain ⟨before, after, split, each⟩ := (least name).mpr ⟨member, lower⟩
    refine ⟨before, name, after, split, ?_, each⟩
    rw [(check_eq_some lays shows small).mpr ⟨control, owner⟩]
    rfl

theorem passed_iff_not_control :
    Passed (fun name => .ok (m.info name)) VENDOR_ID 0x028D interface name ↔ ¬Control m interface name := by
  constructor
  · rintro passed ⟨info, known, is⟩
    exact not_passed_of_ok (congrArg Except.ok known) is passed
  · intro other
    cases known : m.info name with
    | none => exact Or.inl (congrArg Except.ok known)
    | some info => exact Or.inr ⟨info, congrArg Except.ok known, fun is => other ⟨info, known, is⟩⟩

/-- The harness finds a node exactly when the driver does, one of that interface,
and the driver's own unless the text of another name comes first, as that of
`hidraw10` does before `hidraw9`. -/
theorem finds_node_of_driver (debug : String → String) (lays : Lays files tree m) (shows : tree.Shows m)
    (small : interface.toNat < 10) :
    let driver := (findDevice (RealSysfs.source debug fun _ : Unit => tree) VENDOR_ID 0x028D interface ()).1
    (findNode files interface.toNat = none ↔ driver = .error (.deviceNotFound VENDOR_ID 0x028D interface)) ∧
    (∀ path usbIface, findNode files interface.toNat = some (path, usbIface) →
      ∃ name ∈ m.names, path = "/dev/" ++ name ∧ Control m interface name ∧ ∃ usb, tree.OnUsb name usbIface usb) ∧
    ∀ node path usbIface, driver = .ok node → findNode files interface.toNat = some (path, usbIface) →
      (path = node.path ↔ ∀ other ∈ m.names, Control m interface other → ¬other < node.name) := by
  intro driver
  have searched : driver = (findDevice m.source VENDOR_ID 0x028D interface ()).1 := RealSysfs.findDevice_shows shows VENDOR_ID 0x028D interface
  have search : Search m.source _ VENDOR_ID 0x028D interface (sortByIndex m.names) driver := searched ▸ findDevice_search m.source_steady ()
  have same (name : String) : name ∈ sortByIndex m.names ↔ name ∈ m.names := (sortByIndex_perm m.names).mem_iff
  refine ⟨?_, ?_, ?_⟩
  · rw [search.failed_iff, findNode, List.findSome?_eq_none_iff]
    simp only [List.mem_mergeSort, lays.nodes.mem_iff, Option.map_eq_none_iff, check_eq_none lays shows small, same,
      passed_iff_not_control, true_and]
    exact ⟨Or.inl, fun either => either.elim id fun ⟨_, _, failed⟩ => by cases failed⟩
  · intro path usbIface found
    obtain ⟨name, member, here, control, owner, _⟩ := (findNode_eq_some lays shows small).mp found
    exact ⟨name, member, here, control, owner⟩
  · intro node path usbIface chosen found
    obtain ⟨name, member, rfl, control, owner, lower⟩ := (findNode_eq_some lays shows small).mp found
    obtain ⟨stop, known, is, placed⟩ := search.found_iff.mp chosen
    have inside := (same _).mp stop.mem
    have here : Control m interface node.name := ⟨node.info, Except.ok.inj known, is⟩
    have path : "/dev/" ++ name = node.path ↔ name = node.name := by
      rw [placed]
      constructor
      · intro equal
        have texts := congrArg String.toList equal
        rw [MockSysfs.source, String.toList_append, String.toList_append] at texts
        exact String.toList_inj.mp (List.append_cancel_left texts)
      · rintro rfl
        rfl
    rw [path]
    constructor
    · rintro rfl other known control' below
      exact lower other known below control'
    · intro first
      rcases lt_trichotomy name node.name with less | equal | greater
      · exact absurd less (first name member control)
      · exact equal
      · exact absurd here (lower node.name inside greater)

end

def keyboardUevent : String :=
  "DRIVER=razerkbd\nHID_ID=0003:00001532:0000028D\nHID_PHYS=usb-0000:00:14.0-2.3\nHID_UNIQ=\n"

/-- The keyboard's four nodes. -/
def keyboardNodes : NodeFiles where
  nodes := ["hidraw3", "hidraw0", "hidraw2", "hidraw1"]
  uevent hidrawName := if hidrawName ∈ ["hidraw0", "hidraw1", "hidraw2", "hidraw3"] then some keyboardUevent else none
  realpath hidrawName := (keyboardTree.canonicalize hidrawName).getD []
  interfaceNumber name := (keyboardTree.readToString (name :: keyboardDevice) "bInterfaceNumber").toOption

theorem keyboardNodes_lays : Lays keyboardNodes keyboardTree .blackwidowV4Pro where
  nodes := by decide
  uevent := by
    intro name info known
    have keyboard : info.vendorId = VENDOR_ID ∧ info.productId = 0x028D ∧ keyboardNodes.uevent name = some keyboardUevent := by
      rcases keyboardTree_known name with listed | ⟨absent, _⟩
      · simp only [List.mem_cons, List.not_mem_nil, or_false] at listed
        rcases listed with rfl | rfl | rfl | rfl
        all_goals
          cases known
          exact ⟨rfl, rfl, rfl⟩
      · rw [absent] at known
        cases known
    obtain ⟨vendor, product, text⟩ := keyboard
    refine ⟨"DRIVER=razerkbd\nHID_ID=0003:".toList, "\nHID_PHYS=usb-0000:00:14.0-2.3\nHID_UNIQ=\n".toList, ?_, fun _ => ?_⟩
    · rw [text, idsOf, vendor, product]
      decide
    · rw [idsOf, vendor, product]
      decide
  realpath name path resolves := congrArg (·.getD []) resolves
  below := by
    intro name info known _
    rcases keyboardTree_known name with listed | ⟨absent, _⟩
    · simp only [List.mem_cons, List.not_mem_nil, or_false] at listed
      rcases listed with rfl | rfl | rfl | rfl
      all_goals exact ⟨_, _, _, rfl, SysFiles.owns_parent rfl rfl rfl, rfl⟩
    · rw [absent] at known
      cases known
  link name iface usb text onUsb reads := by
    obtain rfl := keyboardTree_device onUsb.2
    exact congrArg Except.toOption reads
  offUsb := by
    intro name absent
    rcases keyboardTree_known name with listed | ⟨_, unresolved⟩
    · simp only [List.mem_cons, List.not_mem_nil, or_false] at listed
      rcases listed with rfl | rfl | rfl | rfl <;> cases absent
    · have nowhere : keyboardNodes.realpath name = [] := congrArg (·.getD []) unresolved
      rw [nowhere]
      rfl

theorem finds_node_of_driver_keyboard : ∃ usbIface, findNode keyboardNodes 3 = some ("/dev/hidraw3", usbIface) := by
  have driver : (findDevice (RealSysfs.source id fun _ : Unit => keyboardTree) VENDOR_ID 0x028D 3 ()).1 =
      .ok ⟨"hidraw3", "/dev/hidraw3", MockSysfs.usb 0x028D 3 0x02⟩ :=
    (RealSysfs.findDevice_shows keyboardTree_shows VENDOR_ID 0x028D 3).trans (by decide)
  obtain ⟨absent, _, same⟩ := @finds_node_of_driver keyboardNodes keyboardTree .blackwidowV4Pro 3 id keyboardNodes_lays keyboardTree_shows (by decide)
  cases found : findNode keyboardNodes 3 with
  | none =>
    have missing := absent.mp found
    rw [driver] at missing
    cases missing
  | some node =>
    have first : ∀ other ∈ MockSysfs.blackwidowV4Pro.names, Control .blackwidowV4Pro 3 other → ¬other < "hidraw3" := by
      intro other member ⟨info, known, _, _, here⟩ below
      have decided : ∀ other ∈ MockSysfs.blackwidowV4Pro.names, other < "hidraw3" →
          (MockSysfs.blackwidowV4Pro.info other).map UsbInterfaceInfo.interfaceNumber ≠ some 3 := by decide
      refine decided other member below ?_
      rw [known, Option.map_some, here]
    have path : node.1 = "/dev/hidraw3" := (same _ node.1 node.2 driver found).mpr first
    exact ⟨node.2, congrArg some (Prod.ext path rfl)⟩

end ValidateHidraw

end OpenRazer
