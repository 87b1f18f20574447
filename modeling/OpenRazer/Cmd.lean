import OpenRazer.Parse

/-! The command constructors. None of them sets the transaction id. -/

namespace OpenRazer.Cmd

def setDeviceMode (mode : DeviceMode) : RazerReport :=
  (RazerReport.new 0x00 0x04 0x02).withArgs #v[mode.toU8, 0x00] (by decide)

def getDeviceMode : RazerReport :=
  RazerReport.new 0x00 0x84 0x02

def getFirmwareVersion : RazerReport :=
  RazerReport.new 0x00 0x81 0x02

def getSerial : RazerReport :=
  RazerReport.new 0x00 0x82 0x16

def setBrightness (storage : Storage) (led : LedId) (brightness : UInt8) : RazerReport :=
  (RazerReport.new 0x0F 0x04 0x03).withArgs #v[storage.toU8, led.toU8, brightness] (by decide)

def getBrightness (storage : Storage) (led : LedId) : RazerReport :=
  (RazerReport.new 0x0F 0x84 0x03).withArgs #v[storage.toU8, led.toU8] (by decide)

def setStaticEffect (storage : Storage) (led : LedId) (rgb : Rgb) : RazerReport :=
  (RazerReport.new 0x0F 0x02 0x09).withArgs
    #v[storage.toU8, led.toU8, 0x01, 0x00, 0x00, 0x01, rgb.r, rgb.g, rgb.b] (by decide)

def setPollRateLegacy (rate : PollRate) : Except ProtoError RazerReport :=
  match rate.legacyCode with
  | some code => .ok ((RazerReport.new 0x00 0x05 0x01).withArgs #v[code] (by decide))
  | none => .error (.malformed "poll rate has no legacy encoding")

def getPollRateLegacy : RazerReport :=
  RazerReport.new 0x00 0x85 0x01

def setPollRateV2 (rate : PollRate) (argument : UInt8) : RazerReport :=
  (RazerReport.new 0x00 0x40 0x02).withArgs #v[argument, rate.v2Code] (by decide)

def getPollRateV2 : RazerReport :=
  RazerReport.new 0x00 0xC0 0x01

end OpenRazer.Cmd
