import OpenRazer.Report

namespace OpenRazer

/-- Lowercase hexadecimal, zero-padded to `width` digits: `{:04x}` is `hex 4`
and `{:#04x}`, whose width counts the prefix, is `"0x" ++ hex 2`. -/
def hex (width n : Nat) : String :=
  let digits := Nat.toDigits 16 n
  String.ofList (List.replicate (width - digits.length) '0' ++ digits)

/-- The same in capitals: `{:02X}`. -/
def hexUpper (width n : Nat) : String :=
  String.ofList ((hex width n).toList.map Char.toUpper)

/-- Something wrong with the bytes of a report. -/
inductive ProtoError
  | dataSizeTooLarge (got : UInt8)
  | responseMismatch (field : String) (expected got : UInt32)
  | deviceStatus (status : Status)
  | badCrc (expected got : UInt8)
  | malformed (what : String)
deriving DecidableEq

def ProtoError.toString : ProtoError → String
  | .dataSizeTooLarge got => "data_size " ++ Nat.repr got.toNat ++ " exceeds the 80-byte argument array"
  | .responseMismatch field expected got =>
    "response " ++ field ++ " mismatch: expected 0x" ++ hex 2 expected.toNat ++ ", got 0x" ++ hex 2 got.toNat
  | .deviceStatus status => "device returned status 0x" ++ hex 2 status.toU8.toNat
  | .badCrc expected got => "bad crc: expected 0x" ++ hex 2 expected.toNat ++ ", got 0x" ++ hex 2 got.toNat
  | .malformed what => "malformed report: " ++ what

/-- Anything that can go wrong finding, opening or talking to a device. -/
inductive HidError
  | deviceNotFound (vid pid : UInt16) (interface : UInt8)
  | unsupportedDevice (pid : UInt16)
  | unsupported (pid : UInt16) (what : String)
  | deviceIdentityMismatch (path : String) (expected got : UInt16 × UInt16)
  | io (op : String) (errno : Int)
  | shortRead (got : Nat)
  | sysfs (msg : String)
  | proto (e : ProtoError)
  | retriesExhausted (last : ProtoError)
deriving DecidableEq

namespace HidError

def toString : HidError → String
  | .deviceNotFound vid pid interface =>
    "no hidraw node for " ++ hex 4 vid.toNat ++ ":" ++ hex 4 pid.toNat ++ " on USB interface " ++
      Nat.repr interface.toNat
  | .unsupportedDevice pid => "product id 0x" ++ hex 4 pid.toNat ++ " is not a supported device"
  | .unsupported pid what => "device 0x" ++ hex 4 pid.toNat ++ " does not support " ++ what
  | .deviceIdentityMismatch path expected got =>
    path ++ " is " ++ hex 4 got.1.toNat ++ ":" ++ hex 4 got.2.toNat ++ ", not the " ++
      hex 4 expected.1.toNat ++ ":" ++ hex 4 expected.2.toNat ++
      " that was enumerated (the device re-enumerated and the node number was reused)"
  | .io op errno => op ++ " failed: errno " ++ Int.repr errno
  | .shortRead got => "short feature read: got " ++ Nat.repr got ++ " bytes, expected 91"
  | .sysfs msg => "sysfs: " ++ msg
  | .proto e => "protocol error: " ++ e.toString
  | .retriesExhausted last => "all 5 attempts failed, last error: " ++ last.toString

/-- The device's own terminal status byte, when there was one. -/
def terminalStatus : HidError → Option Status
  | .retriesExhausted (.deviceStatus status) | .proto (.deviceStatus status) => some status
  | _ => none

def isReceiverIdle (e : HidError) : Bool :=
  e.terminalStatus == some .timeout

theorem isReceiverIdle_iff {e : HidError} : e.isReceiverIdle = true ↔
    e = .retriesExhausted (.deviceStatus .timeout) ∨ e = .proto (.deviceStatus .timeout) := by
  unfold isReceiverIdle terminalStatus
  split
  · simp
  · simp
  · rename_i notExhausted notProto
    constructor
    · intro idle
      exact absurd idle (by decide)
    · rintro (rfl | rfl)
      · exact (notExhausted _ rfl).elim
      · exact (notProto _ rfl).elim

end HidError

end OpenRazer
