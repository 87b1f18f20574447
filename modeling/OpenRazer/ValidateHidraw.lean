import OpenRazer.Cmd
import OpenRazer.ReportCodec

namespace OpenRazer

open Bytes

namespace ValidateHidraw

def TRANSACTION_ID : UInt8 := 0x1F

def REPORT_LEN : Nat := 90

/-- XOR of bytes 2 to 87, read one by one. -/
def crc (report : List UInt8) : Option UInt8 :=
  (List.range' 2 86).foldlM (fun c i => report[i]?.map (c ^^^ ·)) 0

/-- `r[i] = b` on a bytearray. -/
def store (r : List UInt8) (i : Nat) (b : UInt8) : Option (List UInt8) :=
  if i < r.length then some (r.set i b) else none

/-- `r[i:j] = bs` for `i ≤ j`: the bytearray shrinks or grows by the difference. -/
def storeSlice (r : List UInt8) (i j : Nat) (bs : List UInt8) : List UInt8 :=
  r.take i ++ bs ++ r.drop j

/-- `struct.pack_into('>H', r, i, v)`. -/
def packInto (r : List UInt8) (i : Nat) (v : UInt16) : Option (List UInt8) :=
  if i + 2 ≤ r.length then some (storeSlice r i (i + 2) (toBeBytes v).toList) else none

/-- The harness's own encoder; an index out of range raises. -/
def build (commandClass commandId dataSize : UInt8) (args : List UInt8) : Option (List UInt8) := do
  let r := List.replicate REPORT_LEN 0
  let r ← store r 0 0x00
  let r ← store r 1 TRANSACTION_ID
  let r ← packInto r 2 0
  let r ← store r 4 0x00
  let r ← store r 5 dataSize
  let r ← store r 6 commandClass
  let r ← store r 7 commandId
  let r := storeSlice r 8 (8 + args.length) args
  let checksum ← crc r
  let r ← store r 88 checksum
  store r 89 0x00

/-- The frame in front of the checksum. -/
def body (commandClass commandId dataSize : UInt8) (payload : List UInt8) : List UInt8 :=
  [0x00, TRANSACTION_ID, 0, 0, 0x00, dataSize, commandClass, commandId] ++ payload

theorem crc_of_long {r : List UInt8} (long : 88 ≤ r.length) :
    crc r = some (((r.drop 2).take 86).foldl (· ^^^ ·) 0) :=
  foldlM_range' (· ^^^ ·) r long 0

section Frame
variable (commandClass commandId dataSize : UInt8) {args : List UInt8}

theorem length_body (fits : args.length ≤ 80) :
    (body commandClass commandId dataSize (args ++ List.replicate (80 - args.length) 0)).length = 88 := by
  simp only [body, List.length_append, List.length_cons, List.length_nil, List.length_replicate]
  omega

/-- The argument slice keeps the length of the frame. -/
theorem storeSlice_body (fits : args.length ≤ 80) :
    storeSlice (body commandClass commandId dataSize (List.replicate 82 0)) 8 (8 + args.length) args =
      body commandClass commandId dataSize (args ++ List.replicate (80 - args.length) 0) ++ [0, 0] := by
  have front : (body commandClass commandId dataSize (List.replicate 82 0)).take 8 = body commandClass commandId dataSize [] := rfl
  have rest : (body commandClass commandId dataSize (List.replicate 82 0)).drop (8 + args.length) =
      List.replicate (80 - args.length) 0 ++ [0, 0] := by
    have zeros : (body commandClass commandId dataSize (List.replicate 82 0)).drop 8 = List.replicate 82 0 := rfl
    have room : 82 - args.length = 80 - args.length + 2 := by omega
    rw [← List.drop_drop, zeros, List.drop_replicate, room, ← List.replicate_append_replicate]
    rfl
  rw [storeSlice, front, rest]
  simp only [body, List.append_nil, List.append_assoc]

theorem build_eq (fits : args.length ≤ 80) :
    let covered := body commandClass commandId dataSize (args ++ List.replicate (80 - args.length) 0)
    build commandClass commandId dataSize args = some (covered ++ [(covered.drop 2).foldl (· ^^^ ·) 0, 0x00]) := by
  intro covered
  have long : covered.length = 88 := length_body commandClass commandId dataSize fits
  have checked : crc (covered ++ [0, 0]) = some ((covered.drop 2).foldl (· ^^^ ·) 0) := by
    have all : (covered.drop 2).length = 86 := by rw [List.length_drop, long]
    rw [crc_of_long (by rw [List.length_append, long]; decide), List.drop_append_of_le_length (by omega), List.take_left' all]
  -- The eight header bytes are stored one after another.
  have stored : build commandClass commandId dataSize args = (do
      let r := storeSlice (body commandClass commandId dataSize (List.replicate 82 0)) 8 (8 + args.length) args
      let checksum ← crc r
      let r ← store r 88 checksum
      store r 89 0x00) := rfl
  rw [stored, storeSlice_body commandClass commandId dataSize fits]
  change (do
    let checksum ← crc (covered ++ [0, 0])
    let r ← store (covered ++ [0, 0]) 88 checksum
    store r 89 0x00) = _
  rw [checked]
  simp [store, long, List.set_append_right]

end Frame

/-- The header of the driver's frame. -/
def header (r : RazerReport) : List UInt8 :=
  [r.status.toU8, r.transactionId] ++ (toBeBytes r.remainingPackets).toList ++
    [r.protocolType, r.dataSize, r.commandClass, r.commandId]

/-- The driver's encoder, as a list. -/
theorem toList_toBytes (r : RazerReport) :
    r.toBytes.toList = header r ++ r.arguments.toList ++ [OpenRazer.crc r.toBytes, r.reserved] := by
  have front : (header r).length = 8 := rfl
  have covered : (header r ++ r.arguments.toList).length = 88 := by rw [List.length_append, front, Vector.length_toList]
  refine List.ext_getElem (by rw [Vector.length_toList, List.length_append, covered]; rfl) fun i bound _ => ?_
  rw [Vector.length_toList] at bound
  rw [Vector.getElem_toList]
  rcases RazerReport.offset_cases bound with early | ⟨j, inside, rfl⟩ | rfl | rfl
  · rw [RazerReport.toBytes_layout r bound (by omega), List.getElem_append_left (by omega), List.getElem_append_left (by omega)]
    interval_cases i <;> rfl
  · rw [RazerReport.toBytes_layout r bound (by omega), RazerReport.layout_payload r inside,
      List.getElem_append_left (by omega), List.getElem_append_right (by omega), Vector.getElem_toList]
    simp only [front, Nat.add_sub_cancel_left]
  · rw [RazerReport.toBytes_crc, List.getElem_append_right (by omega)]
    simp only [covered, Nat.sub_self, List.getElem_cons_zero]
  · rw [RazerReport.toBytes_layout r bound (by omega), List.getElem_append_right (by omega)]
    simp only [covered, Nat.reduceSub, List.getElem_cons_succ, List.getElem_cons_zero]
    rfl

theorem crc_toBytes (r : RazerReport) :
    OpenRazer.crc r.toBytes = ((header r ++ r.arguments.toList).drop 2).foldl (· ^^^ ·) 0 := by
  have covered : (header r ++ r.arguments.toList).length = 88 := by
    rw [List.length_append, Vector.length_toList]
    rfl
  have range : (r.toBytes.extract 2 88).toList = (r.toBytes.toList.take 88).drop 2 := by
    rw [Vector.toList_extract, List.drop_take]
  rw [OpenRazer.crc, range, toList_toBytes, List.take_left' covered]

theorem withArgs_toList {n : Nat} (r : RazerReport) (args : Vector UInt8 n) (fits : n ≤ 80)
    (blank : r.arguments = Vector.replicate 80 0) :
    (r.withArgs args fits).arguments.toList = args.toList ++ List.replicate (80 - n) 0 := by
  refine List.ext_getElem (by simp; omega) fun i bound _ => ?_
  rw [Vector.length_toList] at bound
  rw [Vector.getElem_toList]
  by_cases given : i < n
  · rw [RazerReport.withArgs_arguments r args fits given, List.getElem_append_left (by simpa using given), Vector.getElem_toList]
  · simp [RazerReport.withArgs, getElem_copyFromSlice, blank, List.getElem_append, given]

/-- Both encoders make the same frame of the same command. -/
theorem build_eq_toBytes {n : Nat} (commandClass commandId dataSize : UInt8) (args : Vector UInt8 n) (fits : n ≤ 80) :
    build commandClass commandId dataSize args.toList = some
      (((RazerReport.new commandClass commandId dataSize).withArgs args fits).withTransactionId 0x1F).toBytes.toList := by
  have payload : (((RazerReport.new commandClass commandId dataSize).withArgs args fits).withTransactionId 0x1F).arguments.toList =
      args.toList ++ List.replicate (80 - n) 0 :=
    withArgs_toList _ args fits rfl
  have short : args.toList.length ≤ 80 := by rwa [Vector.length_toList]
  have built := build_eq commandClass commandId dataSize short
  have front : header (((RazerReport.new commandClass commandId dataSize).withArgs args fits).withTransactionId 0x1F) =
      body commandClass commandId dataSize [] := by
    have packets : (toBeBytes 0).toList = [0, 0] := by decide
    simp only [header, RazerReport.withTransactionId, RazerReport.withArgs, RazerReport.new, packets]
    rfl
  rw [toList_toBytes, crc_toBytes, payload, front, built, Vector.length_toList]
  simp only [body, List.append_nil, List.append_assoc]
  rfl

/-- A SET with its two arguments: the mode, as the driver would send it. -/
theorem build_eq_toBytes_set_mode : build 0x00 0x04 0x02 [0x03, 0x00] =
    some ((Cmd.setDeviceMode .driver).withTransactionId 0x1F).toBytes.toList := by
  have built := build_eq_toBytes 0x00 0x04 0x02 #v[0x03, 0x00] (by decide)
  have same : (RazerReport.new 0x00 0x04 0x02).withArgs #v[0x03, 0x00] (by decide) = Cmd.setDeviceMode .driver := by decide
  rw [same] at built
  exact built

end ValidateHidraw

end OpenRazer
