import Mathlib.Data.List.Sort
import Mathlib.Data.Prod.Lex
import Mathlib.Data.String.Basic
import OpenRazer.Devices
import OpenRazer.Errors
import OpenRazer.Library.Prog

universe u

namespace OpenRazer

/-- What a hidraw node's parent USB interface says about itself. -/
structure UsbInterfaceInfo where
  vendorId : UInt16
  productId : UInt16
  interfaceNumber : UInt8
  interfaceProtocol : UInt8
deriving DecidableEq

/-- The sysfs walk. Each call reads `/sys` as it is at that moment. -/
structure SysfsSource (S : Type u) where
  hidrawNames : Prog S HidError (List String)
  interfaceInfo : String → Prog S HidError (Option UsbInterfaceInfo)
  devicePath : String → String

/-- One `hidraw` node and what its parent USB interface says about it. -/
structure HidrawNode where
  name : String
  path : String
  info : UsbInterfaceInfo
deriving DecidableEq

/-- `str::parse::<u32>`: one optional sign, then digits that fit. -/
def parseU32 (text : String) : Option Nat :=
  let digits : List Char := match text.toList with
    | '+' :: rest => rest
    | chars => chars
  let value : Nat := digits.foldl (fun n d => 10 * n + (d.toNat - '0'.toNat)) 0
  if digits ≠ [] ∧ digits.all Char.isDigit ∧ value < 4294967296 then some value else none

/-- The numeric suffix of a `hidrawN` name. -/
def hidrawIndex (name : String) : Option Nat :=
  match name.toList with
  | 'h' :: 'i' :: 'd' :: 'r' :: 'a' :: 'w' :: suffix => parseU32 (String.ofList suffix)
  | _ => none

/-- Names that do not fit the pattern sort last, by name. -/
def sortKey (name : String) : Nat ×ₗ String :=
  toLex ((hidrawIndex name).getD 4294967295, name)

def sortByIndex (names : List String) : List String :=
  names.insertionSort fun a b => sortKey a ≤ sortKey b

variable {S : Type u} (sysfs : SysfsSource S)

/-- The loop of `findDevice` over the names that are left. -/
def findAmong (vid pid : UInt16) (interface : UInt8) : List String → Prog S HidError HidrawNode
  | [] => .fail (.deviceNotFound vid pid interface)
  | name :: rest => do
    match ← sysfs.interfaceInfo name with
    | none => findAmong vid pid interface rest
    | some info =>
      if info.vendorId = vid ∧ info.productId = pid ∧ info.interfaceNumber = interface then
        pure { name := name, path := sysfs.devicePath name, info := info }
      else findAmong vid pid interface rest

/-- Find the control node for a device: the first match in ascending order. -/
def findDevice (vid pid : UInt16) (interface : UInt8) : Prog S HidError HidrawNode := do
  let names ← sysfs.hidrawNames
  findAmong sysfs vid pid interface (sortByIndex names)

/-- The loop of `listRazerNodes`. -/
def listAmong : List String → Prog S HidError (List HidrawNode)
  | [] => pure []
  | name :: rest => do
    match ← sysfs.interfaceInfo name with
    | none => listAmong rest
    | some info =>
      let later ← listAmong rest
      if info.vendorId = VENDOR_ID then
        return { name := name, path := sysfs.devicePath name, info := info } :: later
      else return later

/-- Every Razer-vendor hidraw node present, on any interface. -/
def listRazerNodes : Prog S HidError (List HidrawNode) := do
  let names ← sysfs.hidrawNames
  listAmong sysfs (sortByIndex names)

end OpenRazer
