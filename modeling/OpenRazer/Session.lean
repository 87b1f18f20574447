import OpenRazer.Library.Prog
import OpenRazer.ReportCodec
import OpenRazer.Transport

universe u

namespace OpenRazer

def MAX_ATTEMPTS : Nat := 5

def RETRY_DELAY : Duration := .fromMillis 10

/-- A device table entry bound to a transport and a clock. `trace` is not in
the source: it records the calls made on the two borrowed objects. -/
structure Session (σ : Type u) where
  entry : DeviceEntry
  world : σ
  transactionId : UInt8
  lastAttempts : Nat
  lastResponseTransactionId : Option UInt8
  trace : List Event

/-- A session method. -/
abbrev SessionM (σ : Type u) (α : Type) := Prog (Session σ) HidError α

/-- `u32::try_from(attempt).unwrap_or(u32::MAX).saturating_add(1)`. -/
def attemptNumber (attempt : Nat) : Nat := min (min attempt 4294967295 + 1) 4294967295

namespace Session

variable {σ : Type u} (H : Host σ)

protected def new (entry : DeviceEntry) (world : σ) : Session σ where
  entry := entry
  world := world
  transactionId := entry.transactionId
  lastAttempts := 0
  lastResponseTransactionId := none
  trace := []

def withTransactionIdOverride (s : Session σ) (tid : UInt8) : Session σ :=
  { s with transactionId := tid }

def setFeature (buf : Frame) : SessionM σ Unit := fun s =>
  let call := H.setFeature s.world buf
  (call.1, { s with world := call.2, trace := s.trace ++ [.set buf call.1] })

/-- The buffer is lent to the transport; the byte count comes back. -/
def getFeature (buf : Frame) : SessionM σ (Nat × Frame) := fun s =>
  let call := H.getFeature s.world buf
  (call.1.map fun got => (got, call.2.1), { s with world := call.2.2, trace := s.trace ++ [.get call.1 call.2.1] })

def sleep (d : Duration) : SessionM σ Unit := fun s =>
  (.ok (), { s with world := H.sleep s.world d, trace := s.trace ++ [.sleep d] })

/-- Validate, stamp the transaction id, encode, issue one SET and wait. -/
def send (request : RazerReport) : SessionM σ Unit := do
  .lift ((checkRequest request).mapError .proto)
  let tid ← .read (·.transactionId)
  -- Whatever the caller left in byte 1, the session's id wins.
  let report := request.withTransactionId tid
  setFeature H (hidrawBuf report)
  let wait ← .read (·.entry.wait)
  sleep H wait

/-- `send`, then one GET, decoded without validation. -/
def transactRaw (request : RazerReport) : SessionM σ RazerReport := do
  send H request
  let (got, buf) ← getFeature H (Vector.replicate 91 0)
  if got < 91 then .fail (.shortRead got) else pure (RazerReport.fromBytes buf.report)

/-- The body of the retry loop: a rejected response is kept for the error. -/
def transactAttempt (request : RazerReport) (attempt : Nat) (_last : Option ProtoError) :
    SessionM σ (RazerReport ⊕ Option ProtoError) := do
  (if attempt > 0 then sleep H RETRY_DELAY else pure ())
  .modify fun s => { s with lastAttempts := attemptNumber attempt }
  let response ← transactRaw H request
  .modify fun s => { s with lastResponseTransactionId := some response.transactionId }
  match checkResponse request response with
  | .ok () => pure (.inl response)
  | .error e => pure (.inr (some e))

def noResponse : ProtoError := .malformed "retry loop ended without a validated response"

/-- A full transaction: up to five attempts, 10 ms apart. -/
def transact (request : RazerReport) : SessionM σ RazerReport := do
  match ← Prog.loop (transactAttempt H request) MAX_ATTEMPTS 0 none with
  | .inl response => pure response
  | .inr last => .fail (.retriesExhausted (last.getD noResponse))

/-- Capability guard. -/
def require (cap : Capabilities) (what : String) : SessionM σ Unit := do
  let entry ← .read (·.entry)
  if entry.capabilities.contains cap then pure () else .fail (.unsupported entry.pid what)

/-- The device's default LED id, as the command constructors take it. -/
def led : SessionM σ LedId := do
  let entry ← .read (·.entry)
  match entry.defaultLed with
  | 0x00 => pure .zero
  | 0x01 => pure .scrollWheel
  | 0x04 => pure .logo
  | 0x05 => pure .backlight
  | _ => .fail (.unsupported entry.pid "this LED id")

def setDeviceMode (mode : DeviceMode) : SessionM σ Unit := do
  require .DEVICE_MODE "device mode"
  let _ ← transact H (Cmd.setDeviceMode mode)
  pure ()

def getDeviceMode : SessionM σ (UInt8 × UInt8) := do
  require .DEVICE_MODE "device mode"
  let response ← transact H Cmd.getDeviceMode
  .lift ((Parse.deviceMode response).mapError .proto)

def firmwareVersion : SessionM σ (UInt8 × UInt8) := do
  require .FIRMWARE_VERSION "firmware version"
  let response ← transact H Cmd.getFirmwareVersion
  .lift ((Parse.firmwareVersion response).mapError .proto)

def serial : SessionM σ String := do
  require .SERIAL "serial"
  let response ← transact H Cmd.getSerial
  .lift ((Parse.serial response).mapError .proto)

def setBrightness (brightness : UInt8) : SessionM σ Unit := do
  require .BRIGHTNESS "brightness"
  let led ← led
  let _ ← transact H (Cmd.setBrightness .varStore led brightness)
  pure ()

def getBrightness : SessionM σ UInt8 := do
  require .BRIGHTNESS "brightness"
  let led ← led
  let response ← transact H (Cmd.getBrightness .varStore led)
  .lift ((Parse.brightness response).mapError .proto)

def setStaticEffect (rgb : Rgb) : SessionM σ Unit := do
  require .STATIC_EFFECT "static effect"
  let led ← led
  let _ ← transact H (Cmd.setStaticEffect .varStore led rgb)
  pure ()

def setPollRate (rate : PollRate) : SessionM σ Unit := do
  require .POLL_RATE "poll rate"
  let kind ← .read (·.entry.pollRateKind)
  let request ← match kind with
    | .v2 => pure (Cmd.setPollRateV2 rate 0x00)
    | .legacy => .lift ((Cmd.setPollRateLegacy rate).mapError .proto)
  let _ ← transact H request
  pure ()

def getPollRate : SessionM σ PollRate := do
  require .POLL_RATE "poll rate"
  let kind ← .read (·.entry.pollRateKind)
  match kind with
  | .v2 => do
    let response ← transact H Cmd.getPollRateV2
    .lift ((Parse.pollRateV2 response).mapError .proto)
  | .legacy => do
    let response ← transact H Cmd.getPollRateLegacy
    .lift ((Parse.pollRateLegacy response).mapError .proto)

end Session

end OpenRazer
