import OpenRazer.Enumerate
import OpenRazer.Transport

namespace OpenRazer

/-- `MockTransport` and `MockClock` of the source in one state: every SET and
every sleep is recorded, queued responses are replayed. -/
structure Mock where
  sent : List Frame := []
  responses : List Frame := []
  failNextSet : Option Int := none
  sleeps : List Duration := []
deriving DecidableEq

namespace Mock

def pushResponse (m : Mock) (report : RazerReport) : Mock :=
  { m with responses := m.responses ++ [hidrawBuf report] }

/-- With the queue empty there is nothing to read: zero bytes, the buffer untouched. -/
def host : Host Mock where
  setFeature m buf :=
    match m.failNextSet with
    | some errno => (.error (.io "HIDIOCSFEATURE" errno), { m with failNextSet := none })
    | none => (.ok (), { m with sent := m.sent ++ [buf] })
  getFeature m buf :=
    match m.responses with
    | response :: rest => (.ok 91, response, { m with responses := rest })
    | [] => (.ok 0, buf, m)
  sleep m d := { m with sleeps := m.sleeps ++ [d] }

theorem host_lawful : host.Lawful where
  setFeature_error {m buf e} failed := by
    cases armed : m.failNextSet with
    | some errno =>
      simp only [host, armed, Except.error.injEq] at failed
      exact ⟨errno, failed.symm⟩
    | none => simp [host, armed] at failed
  getFeature_error {m buf e} failed := by
    cases queued : m.responses <;> simp [host, queued] at failed

end Mock

/-- A fake `/sys/class/hidraw` tree: a node has a USB parent or none. -/
structure MockSysfs where
  nodes : List (String × Option UsbInterfaceInfo) := []
deriving DecidableEq

namespace MockSysfs

def withNode (m : MockSysfs) (name : String) (info : UsbInterfaceInfo) : MockSysfs :=
  { m with nodes := m.nodes ++ [(name, some info)] }

def withoutUsbParent (m : MockSysfs) (name : String) : MockSysfs :=
  { m with nodes := m.nodes ++ [(name, none)] }

def usb (pid : UInt16) (interfaceNumber interfaceProtocol : UInt8) : UsbInterfaceInfo :=
  ⟨VENDOR_ID, pid, interfaceNumber, interfaceProtocol⟩

/-- The keyboard's real interface layout. -/
def blackwidowV4Pro : MockSysfs :=
  ({} : MockSysfs) |>.withNode "hidraw0" (usb 0x028D 0 0x01) |>.withNode "hidraw1" (usb 0x028D 1 0x00)
    |>.withNode "hidraw2" (usb 0x028D 2 0x00) |>.withNode "hidraw3" (usb 0x028D 3 0x02)

def names (m : MockSysfs) : List String :=
  m.nodes.map Prod.fst

def info (m : MockSysfs) (name : String) : Option UsbInterfaceInfo :=
  (m.nodes.find? (·.1 == name)).bind Prod.snd

def source (m : MockSysfs) : SysfsSource Unit where
  hidrawNames := .lift (.ok m.names)
  interfaceInfo name := .lift (.ok (m.info name))
  devicePath name := "/dev/" ++ name

end MockSysfs

end OpenRazer
