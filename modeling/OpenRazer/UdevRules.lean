import Mathlib.Data.List.Infix
import OpenRazer.DeviceTree

namespace OpenRazer

namespace Udev

/-- One `==` of a rule, against a value without wildcards. -/
inductive Match
  | subsystem (value : String)
  | env (property value : String)
  | attrs (attr value : String)
deriving DecidableEq

structure Rule where
  keys : List Match
  tag : String
deriving DecidableEq

/-- The line that grants one interface of one product. -/
def grant (model number : String) : Rule where
  keys := [.subsystem "hidraw", .env "ID_VENDOR_ID" "1532", .env "ID_MODEL_ID" model, .attrs "bInterfaceNumber" number]
  tag := "uaccess"

/-- `60-razer-rust.rules`. -/
def rules : List Rule := [grant "028d" "03", grant "00aa" "00", grant "00ab" "00"]

/-- The line that the file warns against. -/
def grantByAttrs (model number : String) : Rule where
  keys := [.subsystem "hidraw", .attrs "idVendor" "1532", .attrs "idProduct" model, .attrs "bInterfaceNumber" number]
  tag := "uaccess"

/-- The text of an attribute, without the white space at its end. -/
def attrValue (files : SysFiles) (dir : SysPath) (attr : String) : Option String :=
  match files.readToString dir attr with
  | .error _ => none
  | .ok text => some (String.ofList (text.toList.rdropWhile fun c => c == ' ' || c == '\t' || c == '\n' || c == '\r'))

/-- The device of a hidraw node and its parents: the directories from it up that have a `uevent`. -/
def parents (files : SysFiles) (hidrawName : String) : List SysPath :=
  match files.canonicalize hidrawName with
  | none => []
  | some resolved => (hidrawName :: "hidraw" :: resolved).tails.filter fun dir => files.isFile dir "uevent"

section

variable (files : SysFiles) (env : String → String → Option String) (hidrawName : String)

/-- What is asked of the device itself. -/
def Match.own : Match → Bool
  | .subsystem value => "hidraw" == value
  | .env property value => (env hidrawName property).getD "" == value
  | .attrs _ _ => true

/-- What is asked of a parent. -/
def Match.parental (dir : SysPath) : Match → Bool
  | .attrs attr value => attrValue files dir attr == some value
  | _ => true

/-- All that a rule asks of parents it asks of one of them. -/
def Rule.applies (rule : Rule) : Bool :=
  rule.keys.all (Match.own env hidrawName) && (parents files hidrawName).any fun dir => rule.keys.all (Match.parental files dir)

/-- Is the node handed to whoever sits at the machine? -/
def granted : Bool :=
  rules.any fun rule => rule.tag == "uaccess" && rule.applies files env hidrawName

end

/-- What the rules rely on: an interface is a device and the only one over a
node that has a number, and the properties are the ids of the USB device, which
is not an interface. -/
structure Sees (files : SysFiles) (env : String → String → Option String) : Prop where
  device : ∀ {hidrawName name usb}, files.OnUsb hidrawName name usb → files.isFile (name :: usb) "uevent" = true
  alone : ∀ {hidrawName dir text}, dir ∈ parents files hidrawName → files.readToString dir "bInterfaceNumber" = .ok text →
    ∃ name usb, files.OnUsb hidrawName name usb ∧ dir = name :: usb
  vendor : ∀ {hidrawName name usb}, files.OnUsb hidrawName name usb →
    env hidrawName "ID_VENDOR_ID" = attrValue files usb "idVendor"
  model : ∀ {hidrawName name usb}, files.OnUsb hidrawName name usb →
    env hidrawName "ID_MODEL_ID" = attrValue files usb "idProduct"
  apart : ∀ {dir vendor number}, files.readToString dir "idVendor" = .ok vendor →
    files.readToString dir "bInterfaceNumber" = .ok number → False

theorem hex_injective {width n m : Nat} (same : hex width n = hex width m) : n = m := by
  obtain ⟨_, _, first⟩ := hex_spec width n
  obtain ⟨_, _, second⟩ := hex_spec width m
  rw [same] at first
  exact first.symm.trans second

theorem read_of_attrValue {files : SysFiles} {dir : SysPath} {attr value : String}
    (valued : attrValue files dir attr = some value) : ∃ text, files.readToString dir attr = .ok text := by
  unfold attrValue at valued
  split at valued
  · cases valued
  · exact ⟨_, by assumption⟩

/-- A printed number is read without its line break. -/
theorem attrValue_printed {files : SysFiles} {dir : SysPath} {attr : String} {width n : Nat}
    (content : files.readToString dir attr = .ok (hex width n ++ "\n")) : attrValue files dir attr = some (hex width n) := by
  obtain ⟨some, digits, _⟩ := hex_spec width n
  have text : (hex width n ++ "\n").toList = (hex width n).toList ++ ['\n'] := by simp
  have last : (hex width n).toList.getLast some ≠ ' ' ∧ (hex width n).toList.getLast some ≠ '\t' ∧
      (hex width n).toList.getLast some ≠ '\n' ∧ (hex width n).toList.getLast some ≠ '\r' := by
    have digit := digits _ (List.getLast_mem some)
    refine ⟨?_, ?_, ?_, ?_⟩ <;> exact fun blank => by rw [blank] at digit; exact absurd digit (by decide)
  have kept : (hex width n).toList.rdropWhile (fun c => c == ' ' || c == '\t' || c == '\n' || c == '\r') =
      (hex width n).toList := by
    rw [List.rdropWhile_eq_self_iff]
    intro _
    simpa [and_assoc] using last
  rw [attrValue, content]
  simp only
  rw [text, List.rdropWhile_concat_pos _ _ _ (by decide), kept, String.ofList_toList]

/-- The lines of the file are those of the table, in another order. -/
theorem mem_rules {rule : Rule} :
    rule ∈ rules ↔ ∃ entry ∈ TABLE, rule = grant (hex 4 entry.pid.toNat) (hex 2 entry.reportIndex.toNat) := by
  have lines : TABLE.map (fun entry => grant (hex 4 entry.pid.toNat) (hex 2 entry.reportIndex.toNat)) =
      [grant "00aa" "00", grant "00ab" "00", grant "028d" "03"] := by decide
  have same : rule ∈ rules ↔ rule ∈ TABLE.map fun entry => grant (hex 4 entry.pid.toNat) (hex 2 entry.reportIndex.toNat) := by
    rw [lines]
    simp only [rules, List.mem_cons, List.not_mem_nil, or_false]
    constructor
    · rintro (keyboard | wired | wireless)
      · exact Or.inr (Or.inr keyboard)
      · exact Or.inl wired
      · exact Or.inr (Or.inl wireless)
    · rintro (wired | wireless | keyboard)
      · exact Or.inr (Or.inl wired)
      · exact Or.inr (Or.inr wireless)
      · exact Or.inl keyboard
  rw [same, List.mem_map]
  constructor
  · rintro ⟨entry, member, line⟩
    exact ⟨entry, member, line.symm⟩
  · rintro ⟨entry, member, line⟩
    exact ⟨entry, member, line.symm⟩

section

variable {files : SysFiles} {env : String → String → Option String} {m : MockSysfs} {hidrawName : String}

/-- The walk to the interface of a node is among those that udev makes. -/
theorem mem_parents {name : String} {usb : SysPath} (sees : Sees files env) (onUsb : files.OnUsb hidrawName name usb) :
    name :: usb ∈ parents files hidrawName := by
  obtain ⟨⟨below, resolves, _⟩, _⟩ := id onUsb
  rw [parents, resolves]
  refine List.mem_filter.mpr ⟨(List.mem_tails _ _).mpr ?_, sees.device onUsb⟩
  exact (List.suffix_append below _).trans ((List.suffix_cons _ _).trans (List.suffix_cons _ _))

/-- One line grants the nodes of its interface and no others. -/
theorem applies_grant_iff (sees : Sees files env) (shows : files.Shows m) (pid : UInt16) (interface : UInt8) :
    (grant (hex 4 pid.toNat) (hex 2 interface.toNat)).applies files env hidrawName = true ↔
      ∃ info, m.info hidrawName = some info ∧ info.Is VENDOR_ID pid interface := by
  have vendorText : "1532" = hex 4 VENDOR_ID.toNat := by decide
  simp only [Rule.applies, grant, List.all_cons, List.all_nil, Match.own, Match.parental, Bool.true_and, Bool.and_true, beq_self_eq_true,
    Bool.and_eq_true, beq_iff_eq, List.any_eq_true]
  constructor
  · rintro ⟨⟨vendor, product⟩, dir, above, numbered⟩
    obtain ⟨text, read⟩ := read_of_attrValue numbered
    obtain ⟨name, usb, onUsb, rfl⟩ := sees.alone above read
    cases known : m.info hidrawName with
    | none => exact absurd onUsb (shows.offUsb hidrawName known name usb)
    | some info =>
      refine ⟨info, rfl, ?_⟩
      obtain ⟨name', usb', onUsb', vendorId, productId, number, _⟩ := shows.onUsb hidrawName info known
      obtain ⟨rfl, rfl⟩ := RealSysfs.owns_unique onUsb.1 onUsb'.1
      rw [sees.vendor onUsb, attrValue_printed vendorId, Option.getD_some, vendorText] at vendor
      rw [sees.model onUsb, attrValue_printed productId, Option.getD_some] at product
      rw [attrValue_printed number, Option.some.injEq] at numbered
      exact ⟨UInt16.toNat_inj.mp (hex_injective vendor), UInt16.toNat_inj.mp (hex_injective product),
        UInt8.toNat_inj.mp (hex_injective numbered)⟩
  · rintro ⟨info, known, vendor, rfl, rfl⟩
    obtain ⟨name, usb, onUsb, vendorId, productId, number, _⟩ := shows.onUsb hidrawName info known
    refine ⟨⟨?_, ?_⟩, name :: usb, mem_parents sees onUsb, attrValue_printed number⟩
    · rw [sees.vendor onUsb, attrValue_printed vendorId, vendor, vendorText, Option.getD_some]
    · rw [sees.model onUsb, attrValue_printed productId, Option.getD_some]

/-- No directory has an interface number and a vendor id. -/
theorem grantByAttrs_applies (sees : Sees files env) (model number : String) :
    (grantByAttrs model number).applies files env hidrawName = false := by
  rw [Bool.eq_false_iff]
  intro applies
  simp only [Rule.applies, grantByAttrs, List.all_cons, List.all_nil, Match.own, Match.parental, Bool.true_and, Bool.and_true,
    Bool.and_eq_true, beq_iff_eq, List.any_eq_true] at applies
  obtain ⟨_, dir, _, vendor, _, numbered⟩ := applies
  obtain ⟨_, identified⟩ := read_of_attrValue vendor
  obtain ⟨_, interface⟩ := read_of_attrValue numbered
  exact sees.apart identified interface

/-- Access is granted to the control nodes of the devices in the table and to no
other node, so the node that is found for a device is one that can be opened.
The line that asks for both ids and the number of one parent grants nothing. -/
theorem granted_exactly_control_nodes {debug : String → String} (sees : Sees files env) (shows : files.Shows m) :
    (∀ hidrawName, granted files env hidrawName = true ↔ ∃ info, m.info hidrawName = some info ∧
      ∃ entry ∈ TABLE, info.Is VENDOR_ID entry.pid entry.reportIndex) ∧
    (∀ entry ∈ TABLE, ∀ node,
      (findDevice (RealSysfs.source debug fun _ : Unit => files) VENDOR_ID entry.pid entry.reportIndex ()).1 = .ok node →
        granted files env node.name = true) ∧
    ∀ hidrawName, ∀ entry ∈ TABLE,
      (grantByAttrs (hex 4 entry.pid.toNat) (hex 2 entry.reportIndex.toNat)).applies files env hidrawName = false := by
  have exactly (hidrawName : String) : granted files env hidrawName = true ↔ ∃ info, m.info hidrawName = some info ∧
      ∃ entry ∈ TABLE, info.Is VENDOR_ID entry.pid entry.reportIndex := by
    rw [granted, List.any_eq_true]
    constructor
    · rintro ⟨rule, listed, taken⟩
      obtain ⟨entry, member, rfl⟩ := mem_rules.mp listed
      obtain ⟨info, known, control⟩ := (applies_grant_iff sees shows _ _).mp ((Bool.and_eq_true _ _).mp taken).2
      exact ⟨info, known, entry, member, control⟩
    · rintro ⟨info, known, entry, member, control⟩
      refine ⟨_, mem_rules.mpr ⟨entry, member, rfl⟩, ?_⟩
      rw [Bool.and_eq_true]
      exact ⟨beq_self_eq_true _, (applies_grant_iff sees shows _ _).mpr ⟨info, known, control⟩⟩
  refine ⟨exactly, ?_, fun _ _ _ => grantByAttrs_applies sees _ _⟩
  intro entry member node found
  obtain ⟨describes, control⟩ := RealSysfs.found_describes (fun _ => rfl) found
  have known : m.info node.name = some node.info := by
    have read : RealSysfs.interfaceInfo debug files node.name = .ok (m.info node.name) :=
      RealSysfs.interfaceInfo_shows shows node.name
    exact Except.ok.inj (read.symm.trans (RealSysfs.interfaceInfo_eq_some.mpr describes))
  exact (exactly node.name).mpr ⟨node.info, known, entry, member, control⟩

end

/-- The properties that the built-in sets on the nodes of the keyboard. -/
def keyboardEnv (hidrawName property : String) : Option String :=
  (keyboardTree.canonicalize hidrawName).bind fun _ => [("ID_VENDOR_ID", "1532"), ("ID_MODEL_ID", "028d")].lookup property

def keyboardInterfaces : List String := ["1-2.3:1.0", "1-2.3:1.1", "1-2.3:1.2", "1-2.3:1.3"]

theorem keyboardTree_read {dir : SysPath} {attr text : String} (read : keyboardTree.readToString dir attr = .ok text) :
    keyboardTree.isFile dir attr = true := by
  simp only [keyboardTree] at read ⊢
  cases found : keyboardFiles.lookup (dir, attr) with
  | none =>
    rw [found] at read
    cases read
  | some _ => rfl

theorem keyboardTree_numbered {dir : SysPath} (here : keyboardTree.isFile dir "bInterfaceNumber" = true) :
    ∃ name ∈ keyboardInterfaces, dir = name :: keyboardDevice := by
  obtain ⟨text, member⟩ := keyboardTree_listed here
  have only : ∀ file ∈ keyboardFiles, file.1.2 = "bInterfaceNumber" → ∃ name ∈ keyboardInterfaces, file.1.1 = name :: keyboardDevice := by
    decide
  exact only _ member rfl

theorem keyboardTree_resolved {hidrawName : String} {resolved : SysPath}
    (resolves : keyboardTree.canonicalize hidrawName = some resolved) :
    ∃ name ∈ keyboardInterfaces, resolved = "0003:1532:028D.0004" :: name :: keyboardDevice := by
  obtain ⟨name, found, rfl⟩ := Option.map_eq_some_iff.mp resolves
  obtain ⟨before, after, split, _⟩ := List.lookup_eq_some_iff.mp found
  have listed := List.mem_append_right before (List.mem_cons_self (a := (hidrawName, name)) (l := after))
  rw [← split] at listed
  have only : ∀ link ∈ [("hidraw0", "1-2.3:1.0"), ("hidraw1", "1-2.3:1.1"), ("hidraw2", "1-2.3:1.2"), ("hidraw3", "1-2.3:1.3")],
      link.2 ∈ keyboardInterfaces := by decide
  exact ⟨name, only _ listed, rfl⟩

theorem keyboardTree_onUsb {hidrawName name : String} (known : name ∈ keyboardInterfaces)
    (resolves : keyboardTree.canonicalize hidrawName = some ("0003:1532:028D.0004" :: name :: keyboardDevice)) :
    keyboardTree.OnUsb hidrawName name keyboardDevice := by
  have plain : ∀ name ∈ keyboardInterfaces,
      keyboardTree.isFile ("0003:1532:028D.0004" :: name :: keyboardDevice) "bInterfaceNumber" = false := by decide
  have numbered : ∀ name ∈ keyboardInterfaces, keyboardTree.isFile (name :: keyboardDevice) "bInterfaceNumber" = true := by decide
  exact ⟨SysFiles.owns_parent resolves (plain name known) (numbered name known), rfl⟩

theorem keyboardTree_ids {hidrawName name : String} {usb : SysPath} (onUsb : keyboardTree.OnUsb hidrawName name usb) :
    usb = keyboardDevice ∧ (keyboardTree.canonicalize hidrawName).isSome = true := by
  obtain ⟨⟨below, resolves, _, numbered, _⟩, _⟩ := onUsb
  obtain ⟨_, _, same⟩ := keyboardTree_numbered numbered
  exact ⟨(List.cons_eq_cons.mp same).2, by rw [resolves]; rfl⟩

theorem keyboardEnv_eq {hidrawName property : String} (linked : (keyboardTree.canonicalize hidrawName).isSome = true) :
    keyboardEnv hidrawName property = [("ID_VENDOR_ID", "1532"), ("ID_MODEL_ID", "028d")].lookup property := by
  obtain ⟨resolved, resolves⟩ := Option.isSome_iff_exists.mp linked
  rw [keyboardEnv, resolves]
  rfl

theorem keyboardTree_sees : Sees keyboardTree keyboardEnv where
  device {hidrawName name usb} onUsb := by
    obtain ⟨_, member, same⟩ := keyboardTree_numbered onUsb.1.choose_spec.2.2.1
    rw [same]
    have each : ∀ name ∈ keyboardInterfaces, keyboardTree.isFile (name :: keyboardDevice) "uevent" = true := by decide
    exact each _ member
  alone {hidrawName dir text} above read := by
    obtain ⟨name, known, rfl⟩ := keyboardTree_numbered (keyboardTree_read read)
    unfold parents at above
    split at above
    · cases above
    · rename_i resolved resolves
      obtain ⟨name', known', rfl⟩ := keyboardTree_resolved resolves
      have suffix := (List.mem_tails _ _).mp (List.mem_of_mem_filter above)
      have own : name' :: keyboardDevice <:+ hidrawName :: "hidraw" :: "0003:1532:028D.0004" :: name' :: keyboardDevice :=
        ⟨[hidrawName, "hidraw", "0003:1532:028D.0004"], rfl⟩
      have same : name :: keyboardDevice = name' :: keyboardDevice :=
        (List.suffix_of_suffix_length_le suffix own (Nat.le_refl _)).eq_of_length rfl
      rw [same]
      exact ⟨name', keyboardDevice, keyboardTree_onUsb known' resolves, rfl⟩
  vendor {hidrawName name usb} onUsb := by
    obtain ⟨rfl, linked⟩ := keyboardTree_ids onUsb
    rw [keyboardEnv_eq linked]
    decide +kernel
  model {hidrawName name usb} onUsb := by
    obtain ⟨rfl, linked⟩ := keyboardTree_ids onUsb
    rw [keyboardEnv_eq linked]
    decide +kernel
  apart {dir vendor number} identified numbered := by
    obtain ⟨name, known, rfl⟩ := keyboardTree_numbered (keyboardTree_read numbered)
    have none : ∀ name ∈ keyboardInterfaces, keyboardTree.isFile (name :: keyboardDevice) "idVendor" = false := by decide
    have some := keyboardTree_read identified
    rw [none name known] at some
    cases some

/-- Interface 3 of the keyboard is granted, and the one with the keystrokes is not. -/
theorem granted_exactly_control_nodes_keyboard :
    granted keyboardTree keyboardEnv "hidraw3" = true ∧ ¬granted keyboardTree keyboardEnv "hidraw0" = true := by
  obtain ⟨exactly, _⟩ := @granted_exactly_control_nodes keyboardTree keyboardEnv .blackwidowV4Pro id keyboardTree_sees keyboardTree_shows
  refine ⟨(exactly "hidraw3").mpr ⟨MockSysfs.usb 0x028D 3 0x02, by decide, by decide⟩, fun open' => ?_⟩
  obtain ⟨info, known, entry, member, control⟩ := (exactly "hidraw0").mp open'
  cases known
  have other : ∀ entry ∈ TABLE, ¬(MockSysfs.usb 0x028D 0 0x01).Is VENDOR_ID entry.pid entry.reportIndex := by decide
  exact other entry member control

end Udev

end OpenRazer
