import Mathlib.Data.List.Infix
import OpenRazer.Devices
import OpenRazer.Errors
import OpenRazer.Library.Words

namespace OpenRazer

/-- `char::to_uppercase`, which off the ASCII range follows the Unicode tables. -/
structure Uppercase where
  upper : Char → List Char
  ascii : ∀ c : Char, c.toNat < 128 → upper c = [c.toUpper]

/-- `str::to_uppercase`. -/
def Uppercase.text (unicode : Uppercase) (s : String) : List Char :=
  s.toList.flatMap unicode.upper

/-- A canonical path by its components, the innermost first. -/
abbrev SysPath := List String

/-- `as_os_str().len()`. -/
def SysPath.byteLen (path : SysPath) : Nat :=
  if path = [] then 1 else path.foldl (fun n component => n + component.utf8ByteSize + 1) 0

/-- An entry under `/sys/bus/hid/devices` and where its `driver` link points, if it has one that can be read. -/
structure HidEntry where
  fileName : String
  driver : Option String
deriving DecidableEq

/-- What the file system answers while the state of one device is read. -/
structure SysTree where
  /-- `/sys/class/hidraw/NAME/device` with its links resolved. -/
  canonicalize : String → Option SysPath
  devnumExists : SysPath → Bool
  readDevnum : SysPath → Option String
  /-- The listing of `/sys/bus/hid/devices`; an entry that could not be read is `none`. -/
  readHidDevices : Option (List (Option HidEntry))

/-- `Path::file_name`. -/
def pathFileName (path : String) : Option String :=
  let components := (path.toList.splitOn '/').filter fun c => c ≠ [] ∧ c ≠ ['.']
  match components.getLast? with
  | none => none
  | some last => if last = ['.', '.'] then none else some (String.ofList last)

/-- `str::parse::<u64>`: one optional sign, then digits that fit. -/
def parseU64 (text : List Char) : Option Nat :=
  let digits : List Char := match text with
    | '+' :: rest => rest
    | chars => chars
  let value : Nat := digits.foldl (fun n d => 10 * n + (d.toNat - '0'.toNat)) 0
  if digits ≠ [] ∧ digits.all Char.isDigit ∧ value < 18446744073709551616 then some value else none

/-- The loop of `usbParentDir`. -/
def climb (tree : SysTree) : SysPath → Option SysPath
  | [] => if tree.devnumExists [] then some [] else none
  | component :: parent =>
    if tree.devnumExists (component :: parent) then some (component :: parent)
    else if SysPath.byteLen parent ≤ 4 then none
    else climb tree parent

/-- The first ancestor of a hidraw class entry that has a `devnum`. -/
def usbParentDir (tree : SysTree) (hidrawName : String) : Option SysPath :=
  (tree.canonicalize hidrawName).bind (climb tree)

/-- What the name of an entry is searched for: `:028D.`. -/
def needle (pid : UInt16) : List Char :=
  ':' :: (hexUpper 4 pid.toNat).toList ++ ['.']

/-- The loop of `readSysfsState` over the entries that are left. -/
def findDriver (unicode : Uppercase) (pid : UInt16) : List HidEntry → Option String
  | [] => none
  | entry :: rest =>
    if ¬needle pid <:+: unicode.text entry.fileName then findDriver unicode pid rest
    else
      match entry.driver with
      | none => findDriver unicode pid rest
      | some link => pathFileName link

/-- The USB device number of a device and the kernel driver that owns its HID interfaces. -/
def readSysfsState (unicode : Uppercase) (tree : SysTree) (hidrawName : String) (pid : UInt16) :
    Option Nat × Option String :=
  let devnum := ((usbParentDir tree hidrawName).bind tree.readDevnum).bind fun text => parseU64 (Words.trim text.toList)
  let driver := tree.readHidDevices.bind fun entries => findDriver unicode pid entries.reduceOption
  (devnum, driver)

/-- A directory on the way up from a path, with no `devnum` below it on that way. -/
def Nearest (tree : SysTree) (start dir : SysPath) : Prop :=
  ∃ below, start = below ++ dir ∧
    ∀ nearer farther, below = nearer ++ farther → farther ≠ [] → tree.devnumExists (farther ++ dir) = false

namespace Nearest
variable {tree : SysTree} {component : String} {parent start dir : SysPath}

theorem here : Nearest tree start start := by
  refine ⟨[], rfl, ?_⟩
  intro nearer farther parts some
  exact absurd (List.append_eq_nil_iff.mp parts.symm).2 some

theorem above (absent : tree.devnumExists (component :: parent) = false) (nearest : Nearest tree parent dir) :
    Nearest tree (component :: parent) dir := by
  obtain ⟨below, parts, none⟩ := nearest
  refine ⟨component :: below, by rw [parts, List.cons_append], ?_⟩
  intro nearer farther split some
  cases nearer with
  | nil =>
    rw [List.nil_append] at split
    rw [← split, List.cons_append, ← parts]
    exact absent
  | cons first nearer => exact none nearer farther (List.cons.inj split).2 some

end Nearest

/-- The climb ends at the nearest directory with a `devnum`, and reaches none that is not below `/sys`. -/
theorem climb_eq_some {tree : SysTree} {start dir : SysPath} (found : climb tree start = some dir) :
    tree.devnumExists dir = true ∧ (dir = start ∨ 4 < SysPath.byteLen dir) ∧ Nearest tree start dir := by
  induction start with
  | nil =>
    rw [climb, Option.ite_none_right_eq_some] at found
    obtain ⟨here, same⟩ := found
    obtain rfl := Option.some.inj same
    exact ⟨here, Or.inl rfl, Nearest.here⟩
  | cons component parent ih =>
    rw [climb] at found
    split at found
    · rename_i here
      obtain rfl := Option.some.inj found
      exact ⟨here, Or.inl rfl, Nearest.here⟩
    · rename_i absent
      split at found
      · cases found
      · rename_i inside
        obtain ⟨here, near, nearest⟩ := ih found
        refine ⟨here, Or.inr ?_, nearest.above (Bool.eq_false_iff.mpr absent)⟩
        rcases near with rfl | far
        · omega
        · exact far

end OpenRazer
