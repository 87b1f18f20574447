import OpenRazer.Enumerate
import OpenRazer.Transport

namespace OpenRazer

/-- What can own a hidraw node. A Bluetooth or virtual device has no USB
parent; otherwise `usb` is its interface number and protocol. -/
structure HidInterface where
  bustype : UInt32
  vendorId : UInt16
  productId : UInt16
  usb : Option (UInt8 × UInt8)
deriving DecidableEq

namespace HidInterface

def interfaceNumber (i : HidInterface) : Option UInt8 :=
  i.usb.map Prod.fst

/-- What sysfs has to say about it. -/
def info (i : HidInterface) : Option UsbInterfaceInfo :=
  i.usb.map fun (number, protocol) => ⟨i.vendorId, i.productId, number, protocol⟩

end HidInterface

/-- `struct hidraw_devinfo`. The kernel's ids are signed. -/
structure HidrawDevinfo where
  bustype : UInt32
  vendor : Int16
  product : Int16

/-- What `HIDIOCGRAWINFO` says a node is. -/
structure RawInfo where
  bustype : UInt32
  vendorId : UInt16
  productId : UInt16
deriving DecidableEq

/-- The system around the program, call by call. `node` says who holds a path
at the moment of the `n`-th call; nothing ties one moment to the next, so any
device may have come, gone or changed numbers in between. The answers of
sysfs, the refusals and the replies are as free. -/
structure Kernel where
  names : Nat → Except HidError (List String)
  interfaceInfo : Nat → String → Except HidError (Option UsbInterfaceInfo)
  node : Nat → String → Option HidInterface
  openErrno : Nat → String → Option Int
  rawInfoErrno : Nat → Option Int
  setFeature : Nat → HidInterface → Frame → Except Int Unit
  getFeature : Nat → HidInterface → Frame → Except Int Nat × Frame

/-- A frame handed to `HIDIOCSFEATURE`: the session that sent it was opened
for `entry`, and `reached` owns the descriptor it was written to. -/
structure Delivery where
  entry : DeviceEntry
  reached : HidInterface
  buf : Frame
deriving DecidableEq

/-- An `open`: which entry's control interface was wanted, and who held the
node when it happened. -/
structure Opening where
  entry : DeviceEntry
  path : String
  holder : Option HidInterface
deriving DecidableEq

/-- The calls made so far, and what came of them. -/
structure World where
  now : Nat := 0
  openings : List Opening := []
  delivered : List Delivery := []
deriving DecidableEq

def World.tick (w : World) : World :=
  { w with now := w.now + 1 }

/-- An open descriptor stays bound to the interface it was opened on. -/
structure HidrawDevice where
  file : HidInterface
  path : String
deriving DecidableEq

def ENOENT : Int := 2

namespace Kernel

variable (K : Kernel)

/-- `RealSysfs`. -/
def sysfs : SysfsSource World where
  hidrawNames w := (K.names w.now, w.tick)
  interfaceInfo name w := (K.interfaceInfo w.now name, w.tick)
  devicePath name := "/dev/" ++ name

/-- `HidrawDevice::open`. The entry is not an argument of the source's; it is only recorded. -/
def openNode (entry : DeviceEntry) (path : String) : Prog World HidError HidrawDevice := fun w =>
  let holder := K.node w.now path
  let opened := match K.openErrno w.now path, holder with
    | some errno, _ => .error (.io "open" errno)
    | none, none => .error (.io "open" ENOENT)
    | none, some file => .ok { file := file, path := path }
  (opened, { w with now := w.now + 1, openings := w.openings ++ [⟨entry, path, holder⟩] })

/-- The ioctl behind `rawInfo`. -/
def hidiocgrawinfo (file : HidInterface) : Prog World HidError HidrawDevinfo := fun w =>
  let answer := match K.rawInfoErrno w.now with
    | some errno => .error (.io "HIDIOCGRAWINFO" errno)
    | none => .ok { bustype := file.bustype, vendor := file.vendorId.toInt16, product := file.productId.toInt16 }
  (answer, w.tick)

def rawInfo (dev : HidrawDevice) : Prog World HidError RawInfo := do
  let info ← K.hidiocgrawinfo dev.file
  return { bustype := info.bustype, vendorId := info.vendor.toUInt16, productId := info.product.toUInt16 }

/-- Open a hidraw node and look at what was opened. -/
def openExpecting (entry : DeviceEntry) (path : String) (vid pid : UInt16) : Prog World HidError HidrawDevice := do
  let dev ← K.openNode entry path
  let info ← K.rawInfo dev
  if info.vendorId ≠ vid ∨ info.productId ≠ pid then
    .fail (.deviceIdentityMismatch dev.path (vid, pid) (info.vendorId, info.productId))
  else pure dev

/-- The transport and the clock a session for `entry` borrows. -/
def host (entry : DeviceEntry) (dev : HidrawDevice) : Host World where
  setFeature w buf :=
    ((K.setFeature w.now dev.file buf).mapError (.io "HIDIOCSFEATURE"),
      { w with now := w.now + 1, delivered := w.delivered ++ [⟨entry, dev.file, buf⟩] })
  getFeature w buf :=
    -- hidraw takes the report number to fetch in byte 0.
    let answer := K.getFeature w.now dev.file (buf.set 0 0x00 reportId_lt)
    (answer.1.mapError (.io "HIDIOCGFEATURE"), answer.2, w.tick)
  sleep w _ := w.tick

theorem host_lawful (entry : DeviceEntry) (dev : HidrawDevice) : (K.host entry dev).Lawful where
  setFeature_error {w buf e} failed := by
    simp only [host] at failed
    cases answer : K.setFeature w.now dev.file buf with
    | ok done => simp [answer, Except.mapError] at failed
    | error errno =>
      simp only [answer, Except.mapError, Except.error.injEq] at failed
      exact ⟨errno, failed.symm⟩
  getFeature_error {w buf e} failed := by
    simp only [host] at failed
    cases answer : (K.getFeature w.now dev.file (buf.set 0 0x00)).1 with
    | ok got => simp [answer, Except.mapError] at failed
    | error errno =>
      simp only [answer, Except.mapError, Except.error.injEq] at failed
      exact ⟨errno, failed.symm⟩

end Kernel

end OpenRazer
