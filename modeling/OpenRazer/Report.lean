import OpenRazer.Crc

namespace OpenRazer

open Bytes

/-- Report status byte. The host always sends `new`; the rest are device responses. -/
inductive Status
  | new
  | busy
  | successful
  | failure
  | timeout
  | notSupported
  | unknown (other : UInt8)
deriving DecidableEq, Repr

def Status.fromU8 (v : UInt8) : Status :=
  match v with
  | 0x00 => .new
  | 0x01 => .busy
  | 0x02 => .successful
  | 0x03 => .failure
  | 0x04 => .timeout
  | 0x05 => .notSupported
  | other => .unknown other

def Status.toU8 : Status → UInt8
  | .new => 0x00
  | .busy => 0x01
  | .successful => 0x02
  | .failure => 0x03
  | .timeout => 0x04
  | .notSupported => 0x05
  | .unknown other => other

/-- Busy is treated as success by the C driver. -/
def Status.isOk : Status → Bool
  | .successful | .busy => true
  | _ => false

structure Rgb where
  r : UInt8
  g : UInt8
  b : UInt8
deriving DecidableEq, Repr

/-- Whether the device should persist the setting. -/
inductive Storage
  | noStore
  | varStore
deriving DecidableEq, Repr

/-- The `as u8` cast. -/
def Storage.toU8 : Storage → UInt8
  | .noStore => 0x00
  | .varStore => 0x01

inductive LedId
  | zero
  | scrollWheel
  | logo
  | backlight
deriving DecidableEq, Repr

/-- The `as u8` cast. -/
def LedId.toU8 : LedId → UInt8
  | .zero => 0x00
  | .scrollWheel => 0x01
  | .logo => 0x04
  | .backlight => 0x05

/-- Operating mode. The factory mode `0x02` is not representable. -/
inductive DeviceMode
  | normal
  | driver
deriving DecidableEq, Repr

def DeviceMode.toU8 : DeviceMode → UInt8
  | .normal => 0x00
  | .driver => 0x03

def DeviceMode.fromU8 (v : UInt8) : Option DeviceMode :=
  match v with
  | 0x00 => some .normal
  | 0x03 => some .driver
  | _ => none

/-- A polling rate, in hertz. Its two wire encodings are not interchangeable. -/
inductive PollRate
  | hz125
  | hz250
  | hz500
  | hz1000
  | hz2000
  | hz4000
  | hz8000
deriving DecidableEq, Repr

def PollRate.legacyCode : PollRate → Option UInt8
  | .hz1000 => some 0x01
  | .hz500 => some 0x02
  | .hz125 => some 0x08
  | _ => none

def PollRate.fromLegacyCode (code : UInt8) : Option PollRate :=
  match code with
  | 0x01 => some .hz1000
  | 0x02 => some .hz500
  | 0x08 => some .hz125
  | _ => none

def PollRate.v2Code : PollRate → UInt8
  | .hz8000 => 0x01
  | .hz4000 => 0x02
  | .hz2000 => 0x04
  | .hz1000 => 0x08
  | .hz500 => 0x10
  | .hz250 => 0x20
  | .hz125 => 0x40

def PollRate.fromV2Code (code : UInt8) : Option PollRate :=
  match code with
  | 0x01 => some .hz8000
  | 0x02 => some .hz4000
  | 0x04 => some .hz2000
  | 0x08 => some .hz1000
  | 0x10 => some .hz500
  | 0x20 => some .hz250
  | 0x40 => some .hz125
  | _ => none

theorem PollRate.fromLegacyCode_legacyCode {rate : PollRate} {code : UInt8}
    (encoded : rate.legacyCode = some code) : fromLegacyCode code = some rate := by
  cases rate <;> simp only [legacyCode, Option.some.injEq, reduceCtorEq] at encoded <;> subst code <;> rfl

theorem PollRate.fromV2Code_v2Code (rate : PollRate) : fromV2Code rate.v2Code = some rate := by
  cases rate <;> rfl

/-- The payload of a report, `[u8; ARGS_LEN]`. -/
abbrev Arguments := Vector UInt8 80

/-- The single frame both directions of the protocol use, with `remaining_packets`
in native byte order. Every field is public: a caller can put anything in it. -/
structure RazerReport where
  status : Status
  transactionId : UInt8
  remainingPackets : UInt16
  protocolType : UInt8
  dataSize : UInt8
  commandClass : UInt8
  commandId : UInt8
  arguments : Arguments
  crc : UInt8
  reserved : UInt8
deriving DecidableEq

namespace RazerReport

/-- A zeroed report with the given class, id and payload length. -/
protected def new (commandClass commandId dataSize : UInt8) : RazerReport where
  status := .new
  transactionId := 0x00
  remainingPackets := 0
  protocolType := 0x00
  dataSize := dataSize
  commandClass := commandClass
  commandId := commandId
  arguments := Vector.replicate 80 0
  crc := 0x00
  reserved := 0x00

def withTransactionId (r : RazerReport) (tid : UInt8) : RazerReport :=
  { r with transactionId := tid }

/-- Copy `args` into the front of the argument array. `dataSize` is not touched.
The bound is the assertion the source panics on. -/
def withArgs {n : Nat} (r : RazerReport) (args : Vector UInt8 n) (fits : n ≤ 80) : RazerReport :=
  { r with arguments := copyFromSlice r.arguments 0 args (by omega) }

theorem withArgs_arguments {n : Nat} (r : RazerReport) (args : Vector UInt8 n) (fits : n ≤ 80) {i : Nat}
    (bound : i < n) : (r.withArgs args fits).arguments[i] = args[i] := by
  simp only [withArgs]
  rw [getElem_copyFromSlice, dif_pos (by omega)]
  simp only [Nat.sub_zero]

/-- Encode to the wire form, stamping byte 88 with the computed checksum. -/
def toBytes (r : RazerReport) : WireReport :=
  let out : WireReport := Vector.replicate 90 0
  let out := out.set 0 r.status.toU8
  let out := out.set 1 r.transactionId
  let out := copyFromSlice out 2 (toBeBytes r.remainingPackets) (by decide)
  let out := out.set 4 r.protocolType
  let out := out.set 5 r.dataSize
  let out := out.set 6 r.commandClass
  let out := out.set 7 r.commandId
  let out := copyFromSlice out 8 r.arguments (by decide)
  let out := out.set 89 r.reserved
  out.set 88 (OpenRazer.crc out)

/-- Field-for-field decode, with no validation. -/
def fromBytes (bytes : WireReport) : RazerReport where
  status := Status.fromU8 bytes[0]
  transactionId := bytes[1]
  remainingPackets := fromBeBytes #v[bytes[2], bytes[3]]
  protocolType := bytes[4]
  dataSize := bytes[5]
  commandClass := bytes[6]
  commandId := bytes[7]
  arguments := Vector.ofFn fun i => bytes[8 + i.val]
  crc := bytes[88]
  reserved := bytes[89]

/-- Bit 7 of the command id marks a device-to-host command. -/
def isGet (r : RazerReport) : Bool :=
  r.commandId &&& 0x80 != 0

end RazerReport

end OpenRazer
