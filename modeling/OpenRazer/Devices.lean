import Mathlib.Tactic.Common

namespace OpenRazer

/-- A bitset of the commands a device supports. -/
structure Capabilities where
  bits : UInt32
deriving DecidableEq

namespace Capabilities

def NONE : Capabilities := ⟨0⟩
def DEVICE_MODE : Capabilities := ⟨(1 : UInt32) <<< 0⟩
def FIRMWARE_VERSION : Capabilities := ⟨(1 : UInt32) <<< 1⟩
def SERIAL : Capabilities := ⟨(1 : UInt32) <<< 2⟩
def BRIGHTNESS : Capabilities := ⟨(1 : UInt32) <<< 3⟩
def STATIC_EFFECT : Capabilities := ⟨(1 : UInt32) <<< 4⟩
def POLL_RATE : Capabilities := ⟨(1 : UInt32) <<< 5⟩

def contains (self other : Capabilities) : Bool :=
  self.bits &&& other.bits == other.bits

def union (self other : Capabilities) : Capabilities :=
  ⟨self.bits ||| other.bits⟩

end Capabilities

structure Duration where
  nanos : Nat
deriving DecidableEq

def Duration.fromMicros (micros : Nat) : Duration := ⟨micros * 1000⟩

def Duration.fromMillis (millis : Nat) : Duration := ⟨millis * 1000000⟩

inductive DeviceKind
  | keyboard
  | mouse
deriving DecidableEq

/-- Which of the two polling-rate command families a device speaks. -/
inductive PollRateKind
  | legacy
  | v2
deriving DecidableEq

/-- A device's protocol parameters and supported commands. -/
structure DeviceEntry where
  pid : UInt16
  name : String
  kind : DeviceKind
  transactionId : UInt8
  reportIndex : UInt8
  responseIndex : UInt8
  wait : Duration
  capabilities : Capabilities
  defaultLed : UInt8
  pollRateKind : PollRateKind
deriving DecidableEq

def VENDOR_ID : UInt16 := 0x1532

def COMMON_CAPS : Capabilities :=
  .union (.union (.union (.union (.union .DEVICE_MODE .FIRMWARE_VERSION) .SERIAL) .BRIGHTNESS) .STATIC_EFFECT)
    .POLL_RATE

/-- The complete table, ascending by product id. -/
def TABLE : List DeviceEntry := [
  { pid := 0x00AA, name := "Razer Basilisk V3 Pro (Wired)", kind := .mouse, transactionId := 0x1F,
    reportIndex := 0x00, responseIndex := 0x00, wait := .fromMicros 31000, capabilities := COMMON_CAPS,
    defaultLed := 0x00, pollRateKind := .legacy },
  { pid := 0x00AB, name := "Razer Basilisk V3 Pro (Wireless)", kind := .mouse, transactionId := 0x1F,
    reportIndex := 0x00, responseIndex := 0x00, wait := .fromMicros 31000, capabilities := COMMON_CAPS,
    defaultLed := 0x00, pollRateKind := .legacy },
  { pid := 0x028D, name := "Razer BlackWidow V4 Pro", kind := .keyboard, transactionId := 0x1F,
    reportIndex := 0x03, responseIndex := 0x03, wait := .fromMicros 600, capabilities := COMMON_CAPS,
    defaultLed := 0x05, pollRateKind := .v2 }]

def lookup (pid : UInt16) : Option DeviceEntry :=
  TABLE.find? (·.pid == pid)

end OpenRazer
