import OpenRazer.CliSafety
import OpenRazer.Coverage
import OpenRazer.DeviceTree
import OpenRazer.DriverMatch

/-! The table of `razerd list`, as a script reads it: word by word. -/

namespace OpenRazer

namespace ListCmd

/-- What a line says of a node; `supported` is the name of its product. -/
structure Entry where
  name : String
  path : String
  pid : Nat
  interface : Nat
  supported : Option String
deriving DecidableEq

/-- The words of a line; one without a product id in the third place is none of the table's. -/
def read (line : String) : Option Entry :=
  match Words.words line.toList with
  | name :: path :: ('0' :: 'x' :: pid) :: interface :: rest =>
    some ⟨String.ofList name, String.ofList path,
      Numeral.value 16 (pid.map hexDigit), Nat.ofDigitChars 10 interface 0,
      if rest = [['-']] then none else some (String.intercalate " " (rest.map String.ofList))⟩
  | _ => none

def shown (n : HidrawNode) : Entry :=
  ⟨n.name, n.path, n.info.productId.toNat, n.info.interfaceNumber.toNat,
    (lookup n.info.productId).map DeviceEntry.name⟩

/-- The names of the table are words with single spaces between them. -/
theorem supported_words (pid : UInt16) :
    (if Words.words (supported pid).toList = [['-']] then none
      else some (String.intercalate " " ((Words.words (supported pid).toList).map String.ofList))) =
      (lookup pid).map DeviceEntry.name := by
  have names : ∀ entry ∈ TABLE, Words.words entry.name.toList ≠ [['-']] ∧
      String.intercalate " " ((Words.words entry.name.toList).map String.ofList) = entry.name := by
    decide
  unfold supported
  cases known : lookup pid with
  | none => decide
  | some entry =>
    obtain ⟨product, name⟩ := names entry (List.mem_of_find?_eq_some known)
    simp only [product, if_false, name, Option.map_some]

theorem word_hexUpper (width n : Nat) : Words.Word ('0' :: 'x' :: (hexUpper width n).toList) := by
  refine ⟨List.cons_ne_nil _ _, ?_⟩
  intro c member
  rcases List.mem_cons.mp member with rfl | member
  · decide
  · rcases List.mem_cons.mp member with rfl | member
    · decide
    · exact not_isSpace_of_hexdigit ((hexUpper_spec width n).2 c member)

theorem word_toDigits (n : Nat) : Words.Word (Nat.toDigits 10 n) := by
  refine ⟨Nat.toDigits_ne_nil, ?_⟩
  intro c member
  have digit := Nat.isDigit_of_mem_toDigits (by decide) (by decide) member
  exact not_isSpace_of_hexdigit (by simp [isAsciiHexdigit, digit])

/-- Every line of the table can be read back, whatever padding its columns have. -/
theorem read_row {n : HidrawNode} (name : Words.Word n.name.toList) (path : Words.Word n.path.toList) :
    read (row n) = some (shown n) := by
  have blank {k : Nat} : ∀ c ∈ List.replicate k ' ', Words.isSpace c = true := by
    intro c member
    rw [(List.mem_replicate.mp member).2]
    rfl
  have columns : (row n).toList = n.name.toList ++ (List.replicate (10 - n.name.length + 1) ' ' ++
      (n.path.toList ++ (List.replicate (16 - n.path.length + 1) ' ' ++
        ('0' :: 'x' :: (hexUpper 4 n.info.productId.toNat).toList ++
          (List.replicate (1 + (6 - (Nat.repr n.info.interfaceNumber.toNat).length)) ' ' ++
            (Nat.toDigits 10 n.info.interfaceNumber.toNat ++ (List.replicate 2 ' ' ++ (supported n.info.productId).toList))))))) := by
    have front (k : Nat) : List.replicate (1 + k) ' ' = ' ' :: List.replicate k ' ' := by
      rw [Nat.add_comm, List.replicate_succ]
    rw [front]
    simp [row, padRight, padLeft, List.replicate_succ', Nat.repr]
  have some {k : Nat} : List.replicate (k + 1) ' ' ≠ [] := by simp
  have words : Words.words (row n).toList =
      n.name.toList :: n.path.toList :: ('0' :: 'x' :: (hexUpper 4 n.info.productId.toNat).toList) ::
        Nat.toDigits 10 n.info.interfaceNumber.toNat :: Words.words (supported n.info.productId).toList := by
    rw [columns, name.words_append some blank, path.words_append some blank,
      (word_hexUpper _ _).words_append (by simp) blank, (word_toDigits _).words_append some blank]
  rw [read, words]
  simp only [String.ofList_toList, (hexUpper_spec _ _).1, Nat.ofDigitChars_ten_toDigits, supported_words, shown]

theorem read_heading : read heading = none := by
  decide

theorem read_none_found : read "No Razer hidraw nodes found." = none := by
  decide

theorem read_rows {nodes : List HidrawNode} (words : ∀ n ∈ nodes, Words.Word n.name.toList ∧ Words.Word n.path.toList) :
    (nodes.map row).filterMap read = nodes.map shown := by
  induction nodes with
  | nil => rfl
  | cons n nodes ih =>
    obtain ⟨here, later⟩ := List.forall_mem_cons.mp words
    rw [List.map_cons, List.filterMap_cons_some (read_row here.1 here.2), ih later, List.map_cons]

/-- What `list` prints of the nodes it was given. -/
def lines (nodes : List HidrawNode) : List String :=
  if nodes.isEmpty then ["No Razer hidraw nodes found."] else heading :: nodes.map row

/-- Neither the heading nor the line that stands for no node reads as an entry. -/
theorem read_lines {nodes : List HidrawNode} (words : ∀ n ∈ nodes, Words.Word n.name.toList ∧ Words.Word n.path.toList) :
    (lines nodes).filterMap read = nodes.map shown := by
  cases nodes with
  | nil => exact List.filterMap_cons_none read_none_found
  | cons n nodes => exact (List.filterMap_cons_none read_heading).trans (read_rows words)

end ListCmd

namespace Desk

variable (desk : Desk)

theorem list_prints {nodes : List HidrawNode} {w : World} {c : Console}
    (lists : listRazerNodes desk.kernel.sysfs c.world = (.ok nodes, w)) :
    (desk.list c).2.printed = c.printed ++ ListCmd.lines nodes := by
  have run : desk.list c = _ := Prog.bind_of_ok (device_of_ok (Prog.mapError_of_ok lists))
  rw [run, ListCmd.lines]
  split <;> rfl

/-- Read word by word, the lines of `list` give back the nodes in their order,
with their products by name; those with a name are what `info` goes on to visit. -/
theorem list_reads_back {nodes : List HidrawNode} {w : World} {c : Console}
    (lists : listRazerNodes desk.kernel.sysfs c.world = (.ok nodes, w))
    (words : ∀ n ∈ nodes, Words.Word n.name.toList ∧ Words.Word n.path.toList) (rest : List String) :
    ∃ lines, (desk.main ("list" :: rest) c).console.printed = c.printed ++ lines ∧
      lines.filterMap ListCmd.read = nodes.map ListCmd.shown ∧
      ∀ pid, pid ∈ supportedPids nodes ↔
        ∃ entry ∈ lines.filterMap ListCmd.read, entry.pid = pid.toNat ∧ entry.supported.isSome = true := by
  refine ⟨ListCmd.lines nodes, ?_, ListCmd.read_lines words, ?_⟩
  · rw [main, ended_console, desk.list_prints lists]
  · intro pid
    rw [ListCmd.read_lines words, mem_supportedPids]
    constructor
    · rintro ⟨known, n, member, rfl⟩
      exact ⟨_, List.mem_map_of_mem member, rfl, by rwa [ListCmd.shown, Option.isSome_map]⟩
    · rintro ⟨entry, member, same, known⟩
      obtain ⟨n, listed, rfl⟩ := List.mem_map.mp member
      obtain rfl : n.info.productId = pid := UInt16.toNat_inj.mp same
      rw [ListCmd.shown, Option.isSome_map] at known
      exact ⟨known, n, listed, rfl⟩

/-- Two nodes of one keyboard. -/
theorem list_reads_back_keyboard : ((resetting 4).main ["list"] {}).console.printed.filterMap ListCmd.read =
    [⟨"hidraw0", "/dev/hidraw0", 0x028D, 0, some "Razer BlackWidow V4 Pro"⟩,
      ⟨"hidraw3", "/dev/hidraw3", 0x028D, 3, some "Razer BlackWidow V4 Pro"⟩] := by
  have nodes : (listRazerNodes (resetting 4).kernel.sysfs ({} : Console).world).1 =
      .ok [⟨"hidraw0", "/dev/hidraw0", MockSysfs.usb 0x028D 0 0x01⟩, ⟨"hidraw3", "/dev/hidraw3", MockSysfs.usb 0x028D 3 0x02⟩] := by
    decide
  obtain ⟨lines, printed, back, _⟩ := list_reads_back (resetting 4) (Prog.run_of_fst nodes) (by
    intro n member
    rcases List.mem_cons.mp member with rfl | member
    · exact ⟨.of_all (by decide) rfl, .of_all (by decide) rfl⟩
    · rw [List.mem_singleton.mp member]
      exact ⟨.of_all (by decide) rfl, .of_all (by decide) rfl⟩) []
  rw [printed]
  exact back

end Desk

end OpenRazer
