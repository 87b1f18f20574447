import OpenRazer.Hidraw
import OpenRazer.ReadDevice

namespace OpenRazer

def RAZER_VID : UInt16 := 0x1532

/-- What ends a subcommand of `razerd` early. -/
inductive CliError
  | hid (e : HidError)
  | text (message : String)
  | panicked (message : String)
deriving DecidableEq

/-- What `info` finds out about one product id. -/
inductive Visit
  | notLocated (e : HidError)
  | notOpened (node : HidrawNode) (e : HidError)
  | read (node : HidrawNode) (report : DeviceReport)
deriving DecidableEq

def Visit.opened : Visit → Bool
  | .read _ _ => true
  | _ => false

/-- The counters of `info`, with what it prints about each device. -/
structure Tally where
  opened : Nat := 0
  failed : Nat := 0
  idle : Nat := 0
  visits : List (UInt16 × Visit) := []
deriving DecidableEq

def Tally.count (tally : Tally) (pid : UInt16) (visit : Visit) : Tally :=
  match visit with
  | .notLocated _ | .notOpened _ _ =>
    { tally with failed := tally.failed + 1, visits := tally.visits ++ [(pid, visit)] }
  | .read _ report =>
    { tally with
      opened := tally.opened + 1
      idle := if report.receiverIdle then tally.idle + 1 else tally.idle
      visits := tally.visits ++ [(pid, visit)] }

/-- Distinct product ids with a table entry, in enumeration order. -/
def supportedPids (nodes : List HidrawNode) : List UInt16 :=
  nodes.foldl (fun pids n =>
    if (lookup n.info.productId).isSome && !pids.contains n.info.productId then pids ++ [n.info.productId] else pids) []

/-- What `set_device_mode` finds out before its watch begins. -/
structure Trial where
  node : HidrawNode
  transactionId : UInt8
  wire : WireReport
  attempts : Nat
  echoed : Option UInt8
  result : Except HidError Unit
deriving DecidableEq

namespace Kernel

variable (K : Kernel)

/-- The body of `info`'s loop: a failure is one device's problem, not the run's. -/
def visit (entry : DeviceEntry) (pid : UInt16) : Prog World CliError Visit := fun w =>
  match findDevice K.sysfs RAZER_VID pid entry.reportIndex w with
  | (.error e, w) => (.ok (.notLocated e), w)
  | (.ok node, w) =>
    match K.openExpecting entry node.path RAZER_VID pid w with
    | (.error e, w) => (.ok (.notOpened node e), w)
    | (.ok transport, w) =>
      let (report, session) := Session.readDevice (K.host entry transport) (Session.new entry w)
      (.ok (.read node report), session.world)

def infoLoop : List UInt16 → Tally → Prog World CliError Tally
  | [], tally => pure tally
  | pid :: rest, tally => do
    match lookup pid with
    | none => .fail (.panicked "checked above")
    | some entry =>
      let visited ← K.visit entry pid
      infoLoop rest (tally.count pid visited)

/-- Read-only interrogation of every supported device. -/
def info : Prog World CliError Tally := do
  let nodes ← (listRazerNodes K.sysfs).mapError .hid
  let pids := supportedPids nodes
  if pids.isEmpty then pure {}
  else do
    let tally ← infoLoop K pids {}
    if tally.opened = 0 ∧ tally.failed > 0 then
      .fail (.text ("could not open any of the " ++ Nat.repr tally.failed ++ " supported device(s)"))
    else pure tally

/-- The session of `set_device_mode`, on the node it has opened. -/
def trySetting (entry : DeviceEntry) (mode : DeviceMode) (tidOverride : Option UInt8) (node : HidrawNode)
    (transport : HidrawDevice) : Prog World CliError Trial := fun w =>
  let tid := tidOverride.getD entry.transactionId
  let request := (Cmd.setDeviceMode mode).withTransactionId tid
  let session := Session.new entry w
  let session := match tidOverride with
    | some t => session.withTransactionIdOverride t
    | none => session
  let (result, session) := Session.setDeviceMode (K.host entry transport) mode session
  let trial : Trial := {
    node := node
    transactionId := tid
    wire := request.toBytes
    attempts := session.lastAttempts
    echoed := session.lastResponseTransactionId
    result := result }
  (.ok trial, session.world)

/-- `set_device_mode` from the table lookup to the result it prints. -/
def deviceModeTrial (mode : DeviceMode) (tidOverride : Option UInt8) : Prog World CliError Trial := do
  let pid : UInt16 := 0x028D
  match lookup pid with
  | none => .fail (.text "BlackWidow V4 Pro not in device table")
  | some entry =>
    let node ← (findDevice K.sysfs RAZER_VID pid entry.reportIndex).mapError .hid
    let transport ← (K.openExpecting entry node.path RAZER_VID pid).mapError .hid
    K.trySetting entry mode tidOverride node transport

end Kernel

/-- The subcommands of `razerd` that open a device. -/
inductive Subcommand
  | info
  | setDeviceMode (mode : DeviceMode) (tidOverride : Option UInt8)
deriving DecidableEq

inductive Outcome
  | interrogated (tally : Tally)
  | tried (trial : Trial)
deriving DecidableEq

/-- The devices a run gave up on, by product id. -/
def Outcome.unreached : Outcome → List UInt16
  | .interrogated tally => (tally.visits.filter fun v => !v.2.opened).map Prod.fst
  | .tried _ => []

def Subcommand.run (K : Kernel) : Subcommand → Prog World CliError Outcome
  | .info => do return .interrogated (← K.info)
  | .setDeviceMode mode tidOverride => do return .tried (← K.deviceModeTrial mode tidOverride)

end OpenRazer
