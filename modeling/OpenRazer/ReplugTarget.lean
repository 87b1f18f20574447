import Mathlib.Data.String.Basic
import OpenRazer.Library.Collections
import OpenRazer.Library.Fields
import OpenRazer.Library.Prog
import OpenRazer.Python
import OpenRazer.Replug

/-! What `tools/usb_replug.py` does before its signal handlers are installed: it
looks for the keyboard and for the port that the keyboard is on. -/

namespace OpenRazer

/-- Why a file could not be read: it is not there, its bytes are not text, or anything else. -/
inductive ReadError
  | notFound
  | valueError
  | other
deriving DecidableEq

/-- What `/sys/bus/usb/devices` says at one moment. -/
structure UsbFiles where
  names : List String
  /-- `DEVICE/ATTRIBUTE` -/
  read : String → String → Except ReadError String
  pathExists : String → Bool

namespace Replug

open Python

def VID : String := "1532"

def PID : String := "028d"

/-- `except (FileNotFoundError, ValueError)` -/
def caught : ReadError → Bool
  | .notFound | .valueError => true
  | .other => false

structure Found where
  name : String
  devnum : Int
  speed : String
deriving DecidableEq

/-- The body of the loop of `find_device`; `none` goes on with the next entry. -/
def look (files : UsbFiles) (name : String) : Except ReadError (Option Found) := do
  if strip (← files.read name "idVendor") ≠ VID then return none
  if strip (← files.read name "idProduct") ≠ PID then return none
  let devnum ← ((int? (← files.read name "devnum")).elim (.error .valueError) .ok : Except ReadError Int)
  let speed ← files.read name "speed"
  return some ⟨name, devnum, strip speed⟩

def search (files : UsbFiles) : List String → Except ReadError (Option Found)
  | [] => .ok none
  | name :: rest =>
    match look files name with
    | .ok (some found) => .ok (some found)
    | .ok none => search files rest
    | .error e => if caught e then search files rest else .error e

def findDevice (files : UsbFiles) : Except ReadError (Option Found) :=
  search files (files.names.mergeSort fun a b => decide (a ≤ b))

/-- The attribute of a port of a hub. -/
def disableAttribute (parent port : List Char) : List Char :=
  "/sys/bus/usb/devices/".toList ++ (parent ++ ":1.0/".toList ++ (parent ++ "-port".toList ++ (port ++ "/disable".toList)))

/-- `port_disable_path` up to the test whether the path exists. A name without a
point and without a dash does not unpack. -/
def portDisablePath (devname : String) : Option String :=
  let name := devname.toList
  if '.' ∈ name then
    some (String.ofList (disableAttribute (name.rdropWhile (· ≠ '.')).dropLast (name.rtakeWhile (· ≠ '.'))))
  else if '-' ∈ name then
    some (String.ofList (disableAttribute (name.takeWhile (· ≠ '-') ++ "-0".toList) ((name.dropWhile (· ≠ '-')).drop 1)))
  else none

/-- How `main` goes on from there: it returns, it ends with a traceback, or it
installs its handlers and takes the port down. -/
inductive Aim
  | exit (code : Nat)
  | traceback
  | replug (path : String) (devnum : Int)
deriving DecidableEq

def aim (files : UsbFiles) : Aim :=
  match findDevice files with
  | .error _ => .traceback
  | .ok none => .exit 1
  | .ok (some found) =>
    match portDisablePath found.name with
    | none => .traceback
    | some path =>
      if ¬files.pathExists path then .exit 1
      else if found.speed = "480" then .exit 0
      else .replug path found.devnum

end Replug

/-- The place of a USB device: a bus, and the port on each hub from the root hub
down. Ports are counted from one. -/
structure Chain where
  bus : Nat
  ports : List Nat
  some : ports ≠ []
  positive : ∀ p ∈ ports, 0 < p

/-- Port numbers with points between them. -/
def dotted : List Nat → List Char
  | [] => []
  | [p] => Nat.toDigits 10 p
  | p :: rest => Nat.toDigits 10 p ++ '.' :: dotted rest

/-- The name that the kernel gives a device at that place. -/
def Chain.text (chain : Chain) : List Char :=
  Nat.toDigits 10 chain.bus ++ '-' :: dotted chain.ports

theorem toDigits_ten_inj {m n : Nat} : Nat.toDigits 10 m = Nat.toDigits 10 n ↔ m = n := by
  constructor
  · intro same
    rw [← Nat.ofDigitChars_ten_toDigits (n := m), same, Nat.ofDigitChars_ten_toDigits]
  · rintro rfl
    rfl

theorem not_mem_toDigits_ten {c : Char} {n : Nat} (mark : c.isDigit = false) : c ∉ Nat.toDigits 10 n := by
  intro member
  rw [Nat.isDigit_of_mem_toDigits (by decide) (by decide) member] at mark
  cases mark

theorem dotted_cons {p : Nat} {rest : List Nat} (more : rest ≠ []) :
    dotted (p :: rest) = Nat.toDigits 10 p ++ '.' :: dotted rest := by
  cases rest with
  | nil => exact absurd rfl more
  | cons q rest => rfl

theorem dotted_concat {init : List Nat} (some : init ≠ []) (p : Nat) :
    dotted (init ++ [p]) = dotted init ++ '.' :: Nat.toDigits 10 p := by
  induction init with
  | nil => exact absurd rfl some
  | cons q rest ih =>
    by_cases single : rest = []
    · subst single
      rfl
    · rw [List.cons_append, dotted_cons (by simp), ih single, dotted_cons single, List.append_assoc, List.cons_append]

theorem not_mem_dotted {c : Char} (digit : c.isDigit = false) (apart : c ≠ '.') (ports : List Nat) : c ∉ dotted ports := by
  induction ports with
  | nil => exact List.not_mem_nil
  | cons p rest ih =>
    by_cases single : rest = []
    · subst single
      exact not_mem_toDigits_ten digit
    · rw [dotted_cons single]
      simp only [List.mem_append, List.mem_cons, not_or]
      exact ⟨not_mem_toDigits_ten digit, apart, ih⟩

theorem dotted_inj {ports ports' : List Nat} (some : ports ≠ []) (some' : ports' ≠ []) (same : dotted ports = dotted ports') :
    ports = ports' := by
  have point {n : Nat} : '.' ∉ Nat.toDigits 10 n := not_mem_toDigits_ten (by decide)
  induction ports generalizing ports' with
  | nil => exact absurd rfl some
  | cons p rest ih =>
    obtain ⟨p', rest', rfl⟩ := List.exists_cons_of_ne_nil some'
    by_cases single : rest = []
    · subst single
      by_cases single' : rest' = []
      · subst single'
        rw [toDigits_ten_inj.mp same]
      · rw [dotted_cons single'] at same
        exact absurd (same ▸ List.mem_append_right _ (List.mem_cons_self ..) : '.' ∈ dotted [p]) point
    · by_cases single' : rest' = []
      · subst single'
        rw [dotted_cons single] at same
        exact absurd (same ▸ List.mem_append_right _ (List.mem_cons_self ..) : '.' ∈ dotted [p']) point
      · rw [dotted_cons single, dotted_cons single', Fields.append_mark_inj point point] at same
        rw [toDigits_ten_inj.mp same.1, ih single single' same.2]

namespace Chain

/-- The ports down to the hub that the device is on; the root hub is called 0. -/
def hubPorts (chain : Chain) : List Nat :=
  if chain.ports.dropLast = [] then [0] else chain.ports.dropLast

/-- The name of that hub. -/
def hub (chain : Chain) : List Char :=
  Nat.toDigits 10 chain.bus ++ '-' :: dotted chain.hubPorts

/-- The port of the hub. -/
def port (chain : Chain) : List Char :=
  Nat.toDigits 10 (chain.ports.getLast chain.some)

theorem not_mem_hub {c : Char} {chain : Chain} (digit : c.isDigit = false) (dash : c ≠ '-') (point : c ≠ '.') : c ∉ chain.hub := by
  rw [hub]
  simp only [List.mem_append, List.mem_cons, not_or]
  exact ⟨not_mem_toDigits_ten digit, dash, not_mem_dotted digit point _⟩

theorem hubPorts_ne_nil (chain : Chain) : chain.hubPorts ≠ [] := by
  unfold hubPorts
  split
  · exact List.cons_ne_nil _ _
  · assumption

/-- A hub and one of its ports are one place. -/
theorem eq_of_hub_port {chain chain' : Chain} (hub : chain.hub = chain'.hub) (port : chain.port = chain'.port) : chain = chain' := by
  have dash {n : Nat} : '-' ∉ Nat.toDigits 10 n := not_mem_toDigits_ten (by decide)
  rw [Chain.hub, Chain.hub, Fields.append_mark_inj dash dash] at hub
  have bus := toDigits_ten_inj.mp hub.1
  have above := dotted_inj chain.hubPorts_ne_nil chain'.hubPorts_ne_nil hub.2
  have last := toDigits_ten_inj.mp port
  have positive {c : Chain} : [0] ≠ c.ports.dropLast := fun same =>
    absurd (c.positive 0 (List.mem_of_mem_dropLast (same ▸ List.mem_singleton_self 0))) (Nat.lt_irrefl 0)
  have front : chain.ports.dropLast = chain'.ports.dropLast := by
    unfold hubPorts at above
    split at above
    · rename_i root
      split at above
      · rename_i root'
        rw [root, root']
      · exact absurd above positive
    · split at above
      · exact absurd above.symm positive
      · exact above
  have ports : chain.ports = chain'.ports := by
    rw [← List.dropLast_append_getLast chain.some, front, last, List.dropLast_append_getLast chain'.some]
  cases chain
  cases chain'
  cases bus
  cases ports
  rfl

end Chain

namespace Replug

/-- The attribute of one port is no other's. -/
theorem disableAttribute_inj {parent parent' port port' : List Char} (absent : ':' ∉ parent) (absent' : ':' ∉ parent')
    (same : disableAttribute parent port = disableAttribute parent' port') : parent = parent' ∧ port = port' := by
  have mark : ":1.0/".toList = ':' :: "1.0/".toList := by decide
  unfold disableAttribute at same
  rw [mark] at same
  generalize "/sys/bus/usb/devices/".toList = front at same
  generalize "1.0/".toList = interface at same
  generalize "-port".toList = word at same
  generalize "/disable".toList = back at same
  exact Fields.twice_inj absent absent' same

/-- Whatever hubs a device is behind, the path is that of its port on the last of them. -/
theorem portDisablePath_chain (chain : Chain) :
    portDisablePath (String.ofList chain.text) = some (String.ofList (disableAttribute chain.hub chain.port)) := by
  have point {n : Nat} : '.' ∉ Nat.toDigits 10 n := not_mem_toDigits_ten (by decide)
  have dash {n : Nat} : '-' ∉ Nat.toDigits 10 n := not_mem_toDigits_ten (by decide)
  have split := List.dropLast_append_getLast chain.some
  unfold portDisablePath
  simp only [String.toList_ofList]
  by_cases direct : chain.ports.dropLast = []
  · have single : dotted chain.ports = chain.port := by
      rw [← split, direct]
      rfl
    have text : chain.text = Nat.toDigits 10 chain.bus ++ '-' :: chain.port := by rw [Chain.text, single]
    have hub : chain.hub = Nat.toDigits 10 chain.bus ++ "-0".toList := by
      rw [Chain.hub, Chain.hubPorts, if_pos direct]
      rfl
    have plain : '.' ∉ chain.text := by
      rw [text]
      simp only [List.mem_append, List.mem_cons, not_or]
      exact ⟨point, by decide, point⟩
    have before : ∀ c ∈ Nat.toDigits 10 chain.bus, decide (c ≠ '-') = true := fun c member =>
      decide_eq_true fun same => dash (same ▸ member)
    rw [if_neg plain, if_pos (by rw [text]; simp), text, List.takeWhile_append_of_pos before,
      List.dropWhile_append_of_pos before, hub]
    simp
  · have joined : dotted chain.ports = dotted chain.ports.dropLast ++ '.' :: chain.port := by
      conv => lhs; rw [← split]
      exact dotted_concat direct _
    have text : chain.text = chain.hub ++ '.' :: chain.port := by
      rw [Chain.text, joined, Chain.hub, Chain.hubPorts, if_neg direct, List.append_assoc, List.cons_append]
    have last : '.' ∉ chain.port := point
    rw [text, if_pos (by simp), Fields.rdropWhile_mark last, Fields.rtakeWhile_mark last, List.dropLast_concat]

open Python

/-- The entry is another device's, or cannot be read for a reason that is passed over. -/
def Passed (files : UsbFiles) (name : String) : Prop :=
  look files name = .ok none ∨ ∃ e, look files name = .error e ∧ caught e = true

/-- What the files of the entry say: the ids, a number and a speed. -/
structure Shows (files : UsbFiles) (found : Found) : Prop where
  vendor : ∃ text, files.read found.name "idVendor" = .ok text ∧ strip text = VID
  product : ∃ text, files.read found.name "idProduct" = .ok text ∧ strip text = PID
  devnum : ∃ text, files.read found.name "devnum" = .ok text ∧ int? text = some found.devnum
  speed : ∃ text, files.read found.name "speed" = .ok text ∧ strip text = found.speed

theorem look_eq_some {files : UsbFiles} {name : String} {found : Found} :
    look files name = .ok (some found) ↔ found.name = name ∧ Shows files found := by
  constructor
  · intro looked
    unfold look at looked
    obtain ⟨vendor, readVendor, looked⟩ := Prog.except_bind_ok.mp looked
    split at looked
    · cases looked
    rename_i isVendor
    obtain ⟨product, readProduct, looked⟩ := Prog.except_bind_ok.mp looked
    split at looked
    · cases looked
    rename_i isProduct
    obtain ⟨text, readDevnum, looked⟩ := Prog.except_bind_ok.mp looked
    obtain ⟨devnum, isNumber, looked⟩ := Prog.except_bind_ok.mp looked
    obtain ⟨speed, readSpeed, looked⟩ := Prog.except_bind_ok.mp looked
    obtain rfl := Option.some.inj (Except.ok.inj looked)
    have number : int? text = some devnum := by
      cases known : int? text with
      | none =>
        rw [known] at isNumber
        cases isNumber
      | some n =>
        rw [known] at isNumber
        exact congrArg some (Except.ok.inj isNumber)
    exact ⟨rfl, ⟨vendor, readVendor, not_not.mp isVendor⟩, ⟨product, readProduct, not_not.mp isProduct⟩,
      ⟨text, readDevnum, number⟩, ⟨speed, readSpeed, rfl⟩⟩
  · rintro ⟨rfl, ⟨vendor, readVendor, isVendor⟩, ⟨product, readProduct, isProduct⟩, ⟨text, readDevnum, number⟩,
      ⟨speed, readSpeed, isSpeed⟩⟩
    obtain ⟨name, devnum, shown⟩ := found
    obtain rfl : strip speed = shown := isSpeed
    unfold look
    simp only [readVendor, isVendor, readProduct, isProduct, readDevnum, number, readSpeed, bind, Except.bind, ne_eq,
      not_true_eq_false, if_false, Option.elim_some]
    rfl

theorem not_passed_of_shows {files : UsbFiles} {found : Found} (shows : Shows files found) : ¬Passed files found.name := by
  have looked := look_eq_some.mpr ⟨rfl, shows⟩
  rintro (other | ⟨e, failed, _⟩)
  · rw [looked] at other
    cases other
  · rw [looked] at failed
    cases failed

theorem search_passed {files : UsbFiles} {name : String} {rest : List String} (skips : Passed files name) :
    search files (name :: rest) = search files rest := by
  rcases skips with other | ⟨e, failed, skipped⟩
  · rw [search, other]
  · rw [search, failed]
    exact if_pos skipped

theorem search_stops {files : UsbFiles} {name : String} {rest : List String} (stops : ¬Passed files name) :
    search files (name :: rest) = look files name := by
  rw [search]
  rcases looked : look files name with e | _ | here
  · have uncaught : ¬caught e = true := fun skipped => stops (Or.inr ⟨e, looked, skipped⟩)
    simp only [uncaught]
    rfl
  · exact absurd (Or.inl looked) stops
  · rfl

theorem search_eq_some {files : UsbFiles} {names : List String} {found : Found} :
    search files names = .ok (some found) ↔ Shows files found ∧ ∃ before after,
      names = before ++ found.name :: after ∧ ∀ name ∈ before, Passed files name := by
  induction names with
  | nil =>
    constructor
    · intro searched
      cases searched
    · rintro ⟨_, before, after, split, _⟩
      cases before <;> cases split
  | cons name rest ih =>
    rw [Collections.exists_split_cons]
    by_cases skips : Passed files name
    · rw [search_passed skips, ih]
      constructor
      · rintro ⟨shows, behind⟩
        exact ⟨shows, Or.inr ⟨skips, behind⟩⟩
      · rintro ⟨shows, rfl | ⟨_, behind⟩⟩
        · exact absurd skips (not_passed_of_shows shows)
        · exact ⟨shows, behind⟩
    · rw [search_stops skips, look_eq_some]
      constructor
      · rintro ⟨same, shows⟩
        exact ⟨shows, Or.inl same.symm⟩
      · rintro ⟨shows, rfl | ⟨passed, _⟩⟩
        · exact ⟨rfl, shows⟩
        · exact absurd passed skips

/-- The first entry that is not passed over, in the order of the names. -/
theorem findDevice_eq_some {files : UsbFiles} {found : Found} : findDevice files = .ok (some found) ↔
    Shows files found ∧ found.name ∈ files.names ∧ ∀ name ∈ files.names, name < found.name → Passed files name := by
  rw [findDevice, search_eq_some, Collections.mergeSort_split]

theorem search_eq_error {files : UsbFiles} {names : List String} {e : ReadError} (failed : search files names = .error e) :
    ∃ name ∈ names, look files name = .error e ∧ caught e = false := by
  induction names with
  | nil => cases failed
  | cons name rest ih =>
    rw [search] at failed
    rcases looked : look files name with e' | _ | here
    · rw [looked] at failed
      by_cases skipped : caught e' = true
      · simp only [skipped, if_true] at failed
        obtain ⟨other, member, failed⟩ := ih failed
        exact ⟨other, List.mem_cons_of_mem _ member, failed⟩
      · simp only [skipped, Bool.false_eq_true, if_false, Except.error.injEq] at failed
        subst failed
        exact ⟨name, List.mem_cons_self .., looked, Bool.eq_false_iff.mpr skipped⟩
    · rw [looked] at failed
      obtain ⟨other, member, failed⟩ := ih failed
      exact ⟨other, List.mem_cons_of_mem _ member, failed⟩
    · rw [looked] at failed
      cases failed

theorem findDevice_eq_error {files : UsbFiles} {e : ReadError} (failed : findDevice files = .error e) :
    ∃ name ∈ files.names, look files name = .error e ∧ caught e = false := by
  obtain ⟨name, member, failed⟩ := search_eq_error failed
  exact ⟨name, List.mem_mergeSort.mp member, failed⟩

/-- Every keyboard has the name of its place. -/
def Placed (files : UsbFiles) : Prop :=
  ∀ found, found.name ∈ files.names → Shows files found → ∃ chain : Chain, found.name = String.ofList chain.text

/-- The first keyboard, at its place. -/
structure Target (files : UsbFiles) (chain : Chain) (devnum : Int) (speed : String) : Prop where
  mem : String.ofList chain.text ∈ files.names
  shows : Shows files ⟨String.ofList chain.text, devnum, speed⟩
  first : ∀ name ∈ files.names, name < String.ofList chain.text → Passed files name

theorem findDevice_eq_some_target {files : UsbFiles} (placed : Placed files) {found : Found} :
    findDevice files = .ok (some found) ↔
      ∃ chain : Chain, found.name = String.ofList chain.text ∧ Target files chain found.devnum found.speed := by
  rw [findDevice_eq_some]
  constructor
  · rintro ⟨shows, member, first⟩
    obtain ⟨chain, named⟩ := placed found member shows
    obtain ⟨name, devnum, speed⟩ := found
    obtain rfl : name = String.ofList chain.text := named
    exact ⟨chain, rfl, member, shows, first⟩
  · rintro ⟨chain, named, member, shows, first⟩
    obtain ⟨name, devnum, speed⟩ := found
    obtain rfl : name = String.ofList chain.text := named
    exact ⟨shows, member, first⟩

/-- No two places have one path. -/
theorem portDisablePath_inj {chain place : Chain} :
    portDisablePath (String.ofList place.text) = portDisablePath (String.ofList chain.text) ↔ place = chain := by
  constructor
  · intro same
    rw [portDisablePath_chain, portDisablePath_chain, Option.some.injEq, String.ofList_inj] at same
    have colon {c : Chain} : ':' ∉ c.hub := Chain.not_mem_hub (by decide) (by decide) (by decide)
    obtain ⟨hub, port⟩ := disableAttribute_inj colon colon same
    exact Chain.eq_of_hub_port hub port
  · rintro rfl
    rfl

theorem aim_target {files : UsbFiles} {chain : Chain} {devnum : Int} {speed : String} (placed : Placed files)
    (target : Target files chain devnum speed) :
    aim files =
      let path := String.ofList (disableAttribute chain.hub chain.port)
      if ¬files.pathExists path then .exit 1 else if speed = "480" then .exit 0 else .replug path devnum := by
  have found : findDevice files = .ok (some ⟨String.ofList chain.text, devnum, speed⟩) :=
    (findDevice_eq_some_target placed).mpr ⟨chain, rfl, target⟩
  rw [aim, found]
  change (match portDisablePath (String.ofList chain.text) with | none => _ | some path => _) = _
  rw [portDisablePath_chain]

/-- The port that is taken down is the one that the first keyboard is on: its
path is there, and no other place has that path. Nothing but a file that cannot
be read ends the search with a traceback. -/
theorem aims_at_own_port {files : UsbFiles} (placed : Placed files) :
    (∀ path devnum, aim files = .replug path devnum ↔
      ∃ chain speed, Target files chain devnum speed ∧ speed ≠ "480" ∧ files.pathExists path = true ∧
        ∀ place : Chain, portDisablePath (String.ofList place.text) = some path ↔ place = chain) ∧
    (aim files = .traceback → ∃ name ∈ files.names, look files name = .error .other) := by
  constructor
  · intro path devnum
    constructor
    · intro aimed
      rcases found : findDevice files with e | _ | found'
      · simp [aim, found] at aimed
      · simp [aim, found] at aimed
      · obtain ⟨chain, _, target⟩ := (findDevice_eq_some_target placed).mp found
        rw [aim_target placed target] at aimed
        by_cases there : files.pathExists (String.ofList (disableAttribute chain.hub chain.port)) = true
        · by_cases slow : found'.speed = "480"
          · simp [there, slow] at aimed
          · simp only [there, slow, not_true_eq_false, if_false, Aim.replug.injEq] at aimed
            obtain ⟨rfl, rfl⟩ := aimed
            refine ⟨chain, found'.speed, target, slow, there, fun place => ?_⟩
            rw [← portDisablePath_chain, portDisablePath_inj]
        · simp [there] at aimed
    · rintro ⟨chain, speed, target, slow, there, own⟩
      have same := (own chain).mpr rfl
      rw [portDisablePath_chain, Option.some.injEq] at same
      subst same
      simp [aim_target placed target, slow, there]
  · intro aimed
    rcases found : findDevice files with e | _ | found'
    · obtain ⟨name, member, failed, uncaught⟩ := findDevice_eq_error found
      cases e with
      | notFound => cases uncaught
      | valueError => cases uncaught
      | other => exact ⟨name, member, failed⟩
    · simp [aim, found] at aimed
    · obtain ⟨chain, _, target⟩ := (findDevice_eq_some_target placed).mp found
      rw [aim_target placed target] at aimed
      dsimp only at aimed
      split at aimed
      · cases aimed
      · split at aimed <;> cases aimed

/-- A keyboard on the third port of a hub. -/
def behindHub : UsbFiles where
  names := ["usb1", "1-5.3:1.0", "1-5.3", "1-5"]
  read name file :=
    match name, file with
    | "usb1", "idVendor" => .ok "1d6b\n"
    | "1-5", "idVendor" => .ok "05e3\n"
    | "1-5.3", "idVendor" => .ok "1532\n"
    | "1-5.3", "idProduct" => .ok "028d\n"
    | "1-5.3", "devnum" => .ok "7\n"
    | "1-5.3", "speed" => .ok "12\n"
    | _, _ => .error .notFound
  pathExists path := path = "/sys/bus/usb/devices/1-5:1.0/1-5-port3/disable"

def thirdPort : Chain := ⟨1, [5, 3], by decide, by decide⟩

theorem behindHub_target : Target behindHub thirdPort 7 "12" where
  mem := by decide
  shows := ⟨⟨"1532\n", rfl, by decide⟩, ⟨"028d\n", rfl, by decide⟩, ⟨"7\n", rfl, by decide⟩, ⟨"12\n", rfl, by decide⟩⟩
  first := by
    intro name member lower
    simp only [behindHub, List.mem_cons, List.not_mem_nil, or_false] at member
    rcases member with rfl | rfl | rfl | rfl
    · exact absurd lower (by decide)
    · exact absurd lower (by decide)
    · exact absurd lower (by decide)
    · exact Or.inl rfl

theorem behindHub_placed : Placed behindHub := by
  intro found member shows
  obtain ⟨text, reads, vendor⟩ := shows.vendor
  simp only [behindHub, List.mem_cons, List.not_mem_nil, or_false] at member
  rcases member with here | here | here | here
  · rw [here] at reads
    cases reads
    exact absurd vendor (by decide)
  · rw [here] at reads
    cases reads
  · exact ⟨thirdPort, here⟩
  · rw [here] at reads
    cases reads
    exact absurd vendor (by decide)

theorem aims_at_own_port_behind_hub : aim behindHub = .replug "/sys/bus/usb/devices/1-5:1.0/1-5-port3/disable" 7 := by
  refine ((aims_at_own_port behindHub_placed).1 _ _).mpr ⟨thirdPort, "12", behindHub_target, by decide, by decide, ?_⟩
  intro place
  rw [← portDisablePath_inj, portDisablePath_chain thirdPort]
  rfl

end Replug

end OpenRazer
