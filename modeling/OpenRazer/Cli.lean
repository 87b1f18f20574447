import OpenRazer.Metrics
import OpenRazer.SetDeviceMode

namespace OpenRazer

/-- `{:<width}`. -/
def padRight (width : Nat) (text : String) : String :=
  text ++ String.ofList (List.replicate (width - text.length) ' ')

/-- `{:>width}`. -/
def padLeft (width : Nat) (text : String) : String :=
  String.ofList (List.replicate (width - text.length) ' ') ++ text

/-- How the process ends; a panic has an exit status of its own. -/
inductive ExitCode
  | success
  | failure
  | panicked
deriving DecidableEq

/-- `main` done: its exit code, what it wrote to the standard error, and the rest. -/
structure Ended where
  code : ExitCode
  stderr : List String
  console : Console
deriving DecidableEq

namespace Info

open SetDeviceMode

def firmwareLines : Reading (UInt8 × UInt8) → List String
  | .value (major, minor) => ["  firmware        v" ++ Nat.repr major.toNat ++ "." ++ Nat.repr minor.toNat]
  | .receiverIdle => []
  | .failed message => ["  firmware        ERROR: " ++ message]

def serialLines : Option (Reading String) → List String
  | some (.value serial) => ["  serial          " ++ serial]
  | some (.failed message) => ["  serial          ERROR: " ++ message]
  | some .receiverIdle | none => []

def modeLabel (mode : UInt8) : String :=
  if mode = 0x00 then "normal (device)" else if mode = 0x03 then "driver" else "unknown"

def deviceModeLines : Option (Reading (UInt8 × UInt8)) → List String
  | some (.value (mode, param)) =>
    ["  device mode     0x" ++ hexUpper 2 mode.toNat ++ " " ++ modeLabel mode ++ " (param 0x" ++ hexUpper 2 param.toNat ++ ")"]
  | some (.failed message) => ["  device mode     ERROR: " ++ message]
  | some .receiverIdle | none => []

def idleLines (report : DeviceReport) : List String :=
  if report.receiverIdle then
    ["  state           no device connected (receiver idle)",
      "                  dongle answered 0x04 TIMEOUT; the mouse is",
      "                  elsewhere — on its cable, or powered off"]
  else []

def nodeLines (entry : DeviceEntry) (node : HidrawNode) : List String :=
  ["  node            " ++ node.path,
    "  usb interface   " ++ Nat.repr node.info.interfaceNumber.toNat,
    "  transaction id  0x" ++ hexUpper 2 entry.transactionId.toNat]

/-- What one turn of the loop prints. -/
def visitLines (entry : DeviceEntry) (visit : Visit) : List String :=
  ("\n" ++ entry.name ++ " (0x" ++ hexUpper 4 entry.pid.toNat ++ ")") ::
    match visit with
    | .notLocated e =>
      ["  ERROR locating the control interface: " ++ e.toString, "  (unplugged mid-run? try again)"]
    | .notOpened node e =>
      nodeLines entry node ++ ["  ERROR opening " ++ node.path ++ ": " ++ e.toString,
        "  (permissions? install udev/60-razer-rust.rules — see `razerd` usage)"]
    | .read node report =>
      nodeLines entry node ++ firmwareLines report.firmware ++ serialLines report.serial ++
        deviceModeLines report.deviceMode ++ idleLines report

/-- The last lines. -/
def summaryLines (tally : Tally) : List String :=
  "\nAll commands above were GET-class reads. Nothing was written." ::
    if tally.idle > 0 then
      [Nat.repr tally.idle ++ " receiver(s) had no device connected; that is a state, not an error."]
    else []

end Info

namespace ListCmd

/-- The heading of the table. -/
def heading : String :=
  padRight 10 "NODE" ++ " " ++ padRight 16 "PATH" ++ " " ++ padLeft 6 "PID" ++ " " ++ padLeft 6 "IFACE" ++ "  SUPPORTED"

def supported (pid : UInt16) : String :=
  match lookup pid with
  | none => "-"
  | some entry => entry.name

def row (n : HidrawNode) : String :=
  padRight 10 n.name ++ " " ++ padRight 16 n.path ++ " 0x" ++ hexUpper 4 n.info.productId.toNat ++ " " ++
    padLeft 6 (Nat.repr n.info.interfaceNumber.toNat) ++ "  " ++ supported n.info.productId

end ListCmd

def usage : String :=
  "razerd " ++ Metrics.VERSION ++ " — userspace Razer driver

USAGE:
    razerd list      Enumerate Razer hidraw nodes (reads sysfs only, no device I/O)
    razerd info      Read firmware version, serial and device mode from each
                     supported device (READ-ONLY: GET commands only)

    razerd set-device-mode <normal|driver> --yes-i-am-at-the-desk
                     WRITES to the device. Sets the operating mode.
                     Optional: --transaction-id 0xNN to override the device
                     table's value. Overriding it is how the upstream defect is
                     reproduced deliberately; do not use it casually.

`list` and `info` are read-only. `set-device-mode` is not.

If you get a permission error, install the udev rule:
    sudo cp udev/60-razer-rust.rules /etc/udev/rules.d/
    sudo udevadm control --reload-rules && sudo udevadm trigger"

namespace Desk

open SetDeviceMode

variable (desk : Desk)

/-- `list`: enumerates without opening any device node. -/
def list : Prog Console CliError Unit := do
  let nodes ← device ((listRazerNodes desk.kernel.sysfs).mapError .hid)
  if nodes.isEmpty then say ["No Razer hidraw nodes found."]
  else say (ListCmd.heading :: nodes.map ListCmd.row)

def infoLoop : List UInt16 → Tally → Prog Console CliError Tally
  | [], tally => pure tally
  | pid :: rest, tally => do
    match lookup pid with
    | none => .fail (.panicked "checked above")
    | some entry =>
      let visited ← device (desk.kernel.visit entry pid)
      say (Info.visitLines entry visited)
      infoLoop rest (tally.count pid visited)

/-- `info`, with what it prints. -/
def info : Prog Console CliError Unit := do
  let nodes ← device ((listRazerNodes desk.kernel.sysfs).mapError .hid)
  let pids := supportedPids nodes
  if pids.isEmpty then
    say ["No supported Razer devices found.", "(`razerd list` shows every Razer hidraw node, supported or not.)"]
  else do
    let tally ← desk.infoLoop pids {}
    say (Info.summaryLines tally)
    if tally.opened = 0 ∧ tally.failed > 0 then
      .fail (.text ("could not open any of the " ++ Nat.repr tally.failed ++ " supported device(s)"))
    else pure ()

/-- What `main` makes of a subcommand's result. -/
def ended {α : Type} (run : Except CliError α × Console) : Ended :=
  match run with
  | (.ok _, c) => ⟨.success, [], c⟩
  | (.error (.hid e), c) => ⟨.failure, ["error: " ++ e.toString], c⟩
  | (.error (.text message), c) => ⟨.failure, ["error: " ++ message], c⟩
  | (.error (.panicked message), c) => ⟨.panicked, [message], c⟩

/-- `main`, behind the name of the program. -/
def main (args : List String) (c : Console) : Ended :=
  match args with
  | "info" :: _ => ended (desk.info c)
  | "list" :: _ => ended (desk.list c)
  | "set-device-mode" :: rest => ended (desk.setDeviceMode rest c)
  | "--version" :: _ | "-V" :: _ => ⟨.success, [], { c with printed := c.printed ++ ["razerd " ++ Metrics.VERSION] }⟩
  | _ => ⟨.failure, [usage], c⟩

end Desk

end OpenRazer
