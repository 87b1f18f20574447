import OpenRazer.Library.Numeral
import OpenRazer.Razerd

namespace OpenRazer

/-- `char::is_ascii_hexdigit`. -/
def isAsciiHexdigit (c : Char) : Bool :=
  c.isDigit || ('a' ≤ c && c ≤ 'f') || ('A' ≤ c && c ≤ 'F')

/-- `char::to_digit(16)`, for a hex digit. -/
def hexDigit (c : Char) : Nat :=
  if c.isDigit then c.toNat - '0'.toNat
  else if 'a' ≤ c then c.toNat - 'a'.toNat + 10
  else c.toNat - 'A'.toNat + 10

/-- One `0x` or `0X` in front is dropped, not every one there is. -/
def stripPrefix : List Char → List Char
  | '0' :: 'x' :: digits => digits
  | '0' :: 'X' :: digits => digits
  | raw => raw

/-- `u8::from_str_radix(digits, 16)`, for hex digits. -/
def u8FromHex (digits : List Char) : Option UInt8 :=
  (Numeral.readChecked 16 256 (digits.map hexDigit) 0).map UInt8.ofNat

/-- A digit reads as itself, in small letters and in capitals. -/
theorem digitChar_spec : ∀ d < 16, (hexDigit (Nat.digitChar d) = d ∧ isAsciiHexdigit (Nat.digitChar d) = true) ∧
    hexDigit (Nat.digitChar d).toUpper = d ∧ isAsciiHexdigit (Nat.digitChar d).toUpper = true := by
  decide

/-- A number is printed with digits of its value, at least one. -/
theorem hex_digits (width n : Nat) : ∃ digits, (hex width n).toList = digits.map Nat.digitChar ∧ digits ≠ [] ∧
    (∀ d ∈ digits, d < 16) ∧ Numeral.value 16 digits = n := by
  obtain ⟨digits, printed, small, valued⟩ := Numeral.toDigits_spec (show 1 < 16 by decide) n
  have some : digits ≠ [] := by
    rintro rfl
    exact Nat.toDigits_ne_nil printed
  refine ⟨List.replicate (width - (Nat.toDigits 16 n).length) 0 ++ digits, ?_, by simp [some], fun d member => ?_, ?_⟩
  · rw [hex, String.toList_ofList, List.map_append, List.map_replicate, ← printed]
    rfl
  · rcases List.mem_append.mp member with zero | digit
    · rw [(List.mem_replicate.mp zero).2]
      decide
    · exact small d digit
  · rw [Numeral.value_zeros, valued]

/-- Digits spelled so that they read as themselves read as their value. -/
theorem value_spelled {spell : Nat → Char} {digits : List Nat}
    (spells : ∀ d ∈ digits, hexDigit (spell d) = d ∧ isAsciiHexdigit (spell d) = true) :
    (∀ c ∈ digits.map spell, isAsciiHexdigit c = true) ∧
      Numeral.value 16 ((digits.map spell).map hexDigit) = Numeral.value 16 digits := by
  refine ⟨List.forall_mem_map.mpr fun d member => (spells d member).2, ?_⟩
  have back : digits.map (hexDigit ∘ spell) = digits :=
    (List.map_congr_left fun d member => (spells d member).1).trans (List.map_id _)
  rw [List.map_map, back]

theorem hex_spec (width n : Nat) : (hex width n).toList ≠ [] ∧ (∀ c ∈ (hex width n).toList, isAsciiHexdigit c = true) ∧
    Numeral.value 16 ((hex width n).toList.map hexDigit) = n := by
  obtain ⟨digits, printed, some, small, valued⟩ := hex_digits width n
  obtain ⟨each, value⟩ := value_spelled fun d member => (digitChar_spec d (small d member)).1
  rw [← printed] at each value
  exact ⟨by simpa [printed] using some, each, value.trans valued⟩

theorem hexUpper_spec (width n : Nat) :
    Numeral.value 16 ((hexUpper width n).toList.map hexDigit) = n ∧ ∀ c ∈ (hexUpper width n).toList, isAsciiHexdigit c = true := by
  obtain ⟨digits, printed, _, small, valued⟩ := hex_digits width n
  obtain ⟨each, value⟩ := value_spelled fun d member => (digitChar_spec d (small d member)).2
  have capitals : (hexUpper width n).toList = digits.map fun d => (Nat.digitChar d).toUpper := by
    rw [hexUpper, String.toList_ofList, printed, List.map_map]
    rfl
  rw [← capitals] at each value
  exact ⟨value.trans valued, each⟩

namespace SetDeviceMode

def CONFIRMATION : String := "--yes-i-am-at-the-desk"

def TRANSACTION_ID : String := "--transaction-id"

/-- The value of `--transaction-id`. -/
def transactionId (raw : String) : Except CliError UInt8 :=
  if raw.toList.head? = some '-' then
    .error (.text ("--transaction-id needs a hex value, but got the flag `" ++ raw ++ "`"))
  else
    let digits := stripPrefix raw.toList
    if digits.isEmpty || !digits.all isAsciiHexdigit then
      .error (.text ("`" ++ raw ++ "` is not a hex byte, e.g. 1F or 0x1F"))
    else
      match u8FromHex digits with
      | none => .error (.text "number too large to fit in target type")
      | some id => .ok id

def mode (args : List String) : Except CliError DeviceMode :=
  match args.head? with
  | some "normal" => .ok .normal
  | some "driver" => .ok .driver
  | _ => .error (.text "expected `normal` or `driver`")

def confirmation (args : List String) : Except CliError Unit :=
  if args.any (· == CONFIRMATION) then .ok ()
  else .error (.text ("refusing to write without --yes-i-am-at-the-desk.\n" ++
    "             This command can reset the keyboard's firmware and drop it off the USB\n" ++
    "             bus. Recovery is a physical replug, so a human needs to be present."))

/-- The argument behind the first `--transaction-id`, whatever else is there. -/
def tidOverride (args : List String) : Except CliError (Option UInt8) :=
  match args.findIdx? (· == TRANSACTION_ID) with
  | none => .ok none
  | some i =>
    match args[i + 1]? with
    | none => .error (.text "--transaction-id needs a value, e.g. --transaction-id 1F")
    | some raw => (transactionId raw).map some

/-- What `set_device_mode` reads off its arguments: each part is a scan of its own. -/
def arguments (args : List String) : Except CliError (DeviceMode × Option UInt8) := do
  let mode ← mode args
  confirmation args
  let tidOverride ← tidOverride args
  return (mode, tidOverride)

/-- At most one prefix, then hex digits, at least one and with any number of
leading zeros, that fit a byte. -/
def IsHexByte (raw : String) (id : UInt8) : Prop :=
  ∃ front digits, raw.toList = front ++ digits ∧ front ∈ [[], ['0', 'x'], ['0', 'X']] ∧ digits ≠ [] ∧
    (∀ c ∈ digits, isAsciiHexdigit c = true) ∧ Numeral.value 16 (digits.map hexDigit) = id.toNat

theorem stripPrefix_spec (raw : List Char) : ∃ front, raw = front ++ stripPrefix raw ∧ front ∈ [[], ['0', 'x'], ['0', 'X']] := by
  unfold stripPrefix
  split
  · exact ⟨['0', 'x'], rfl, by simp⟩
  · exact ⟨['0', 'X'], rfl, by simp⟩
  · exact ⟨[], rfl, by simp⟩

/-- Hex digits have no prefix of their own. -/
theorem stripPrefix_append {front digits : List Char} (known : front ∈ [[], ['0', 'x'], ['0', 'X']])
    (hex : ∀ c ∈ digits, isAsciiHexdigit c = true) : stripPrefix (front ++ digits) = digits := by
  simp only [List.mem_cons, List.not_mem_nil, or_false] at known
  rcases known with rfl | rfl | rfl
  · rw [List.nil_append]
    unfold stripPrefix
    split
    · exact absurd (hex 'x' (by simp)) (by decide)
    · exact absurd (hex 'X' (by simp)) (by decide)
    · rfl
  · rfl
  · rfl

theorem u8FromHex_eq_some {digits : List Char} {id : UInt8} :
    u8FromHex digits = some id ↔ Numeral.value 16 (digits.map hexDigit) = id.toNat := by
  have bound := id.toNat_lt
  simp only [u8FromHex, Option.map_eq_some_iff, Numeral.readChecked_eq_some (show 0 < 16 by decide) (show 0 < 256 by decide),
    Nat.zero_mul, Nat.zero_add]
  constructor
  · rintro ⟨v, ⟨rfl, small⟩, rfl⟩
    rw [UInt8.toNat_ofNat_of_lt' small]
  · intro same
    exact ⟨id.toNat, ⟨same.symm, bound⟩, UInt8.ofNat_toNat⟩

/-- A value is taken exactly when it is a hex byte, and for that byte. -/
theorem transactionId_eq_ok {raw : String} {id : UInt8} : transactionId raw = .ok id ↔ IsHexByte raw id := by
  unfold transactionId
  constructor
  · intro taken
    split at taken
    · cases taken
    · simp only at taken
      split at taken
      · cases taken
      · rename_i wellFormed
        simp only [Bool.or_eq_true, List.isEmpty_iff, Bool.not_eq_true', not_or, Bool.not_eq_false] at wellFormed
        obtain ⟨some, hex⟩ := wellFormed
        split at taken
        · cases taken
        · rename_i fits
          obtain rfl := Except.ok.inj taken
          obtain ⟨front, split, known⟩ := stripPrefix_spec raw.toList
          exact ⟨front, _, split, known, some, fun c member => List.all_eq_true.mp hex c member, u8FromHex_eq_some.mp fits⟩
  · rintro ⟨front, digits, split, known, some, hex, value⟩
    have noFlag : raw.toList.head? ≠ Option.some '-' := by
      rw [split]
      simp only [List.mem_cons, List.not_mem_nil, or_false] at known
      rcases known with rfl | rfl | rfl
      · intro flag
        rw [List.nil_append] at flag
        exact absurd (hex '-' (List.mem_of_head? flag)) (by decide)
      · simp
      · simp
    have wellFormed : (digits.isEmpty || !digits.all isAsciiHexdigit) = false := by
      simp only [Bool.or_eq_false_iff, List.isEmpty_eq_false_iff, Bool.not_eq_false', List.all_eq_true]
      exact ⟨some, hex⟩
    rw [if_neg noFlag, split, stripPrefix_append known hex]
    simp only [wellFormed, u8FromHex_eq_some.mpr value]
    rfl

theorem findIdx?_absent {args : List String} (absent : TRANSACTION_ID ∉ args) :
    args.findIdx? (· == TRANSACTION_ID) = none := by
  rw [List.findIdx?_eq_none_iff]
  intro arg member
  rw [beq_eq_false_iff_ne]
  rintro rfl
  exact absent member

theorem tidOverride_absent {args : List String} (absent : TRANSACTION_ID ∉ args) : tidOverride args = .ok none := by
  rw [tidOverride, findIdx?_absent absent]

theorem tidOverride_present {before rest : List String} (first : TRANSACTION_ID ∉ before) :
    tidOverride (before ++ TRANSACTION_ID :: rest) = match rest.head? with
      | none => .error (.text "--transaction-id needs a value, e.g. --transaction-id 1F")
      | some raw => (transactionId raw).map some := by
  have found : (before ++ TRANSACTION_ID :: rest).findIdx? (· == TRANSACTION_ID) = some before.length := by
    rw [List.findIdx?_append, findIdx?_absent first, List.findIdx?_cons, beq_self_eq_true, if_pos rfl]
    simp
  have next : (before ++ TRANSACTION_ID :: rest)[before.length + 1]? = rest.head? := by
    rw [List.getElem?_append_right (Nat.le_add_right _ 1), Nat.add_sub_cancel_left, List.getElem?_cons_succ, List.head?_eq_getElem?]
  rw [tidOverride, found]
  simp only [next]

/-- What the arguments say about the id: nothing, or the byte behind the first `--transaction-id`. -/
inductive Overridden (args : List String) : Option UInt8 → Prop
  | table : TRANSACTION_ID ∉ args → Overridden args none
  | given {before raw after id} : args = before ++ TRANSACTION_ID :: raw :: after → TRANSACTION_ID ∉ before →
      IsHexByte raw id → Overridden args (some id)

theorem tidOverride_eq_ok {args : List String} {override : Option UInt8} :
    tidOverride args = .ok override ↔ Overridden args override := by
  constructor
  · intro read
    by_cases present : TRANSACTION_ID ∈ args
    · obtain ⟨before, rest, rfl, first⟩ := List.eq_append_cons_of_mem present
      rw [tidOverride_present first] at read
      cases rest with
      | nil => cases read
      | cons raw after =>
        simp only [List.head?_cons] at read
        cases value : transactionId raw with
        | error e =>
          rw [value] at read
          cases read
        | ok id =>
          rw [value] at read
          obtain rfl := Except.ok.inj read
          exact .given rfl first (transactionId_eq_ok.mp value)
    · rw [tidOverride_absent present] at read
      obtain rfl := Except.ok.inj read
      exact .table present
  · intro overridden
    cases overridden with
    | table absent => exact tidOverride_absent absent
    | given split first value =>
      rw [split, tidOverride_present first]
      simp only [List.head?_cons, transactionId_eq_ok.mpr value]
      rfl

def word : DeviceMode → String
  | .normal => "normal"
  | .driver => "driver"

theorem mode_eq_ok {args : List String} {m : DeviceMode} : mode args = .ok m ↔ args.head? = some (word m) := by
  unfold mode
  split
  · rename_i normal
    rw [normal]
    cases m <;> simp [word]
  · rename_i driver
    rw [driver]
    cases m <;> simp [word]
  · rename_i notNormal notDriver
    simp only [reduceCtorEq, false_iff]
    cases m with
    | normal => exact notNormal
    | driver => exact notDriver

/-- The arguments that get past the checks: only these three scans are made,
and what they do not look at does not matter. -/
structure Accepted (args : List String) (m : DeviceMode) (override : Option UInt8) : Prop where
  mode : args.head? = some (word m)
  confirmed : CONFIRMATION ∈ args
  overridden : Overridden args override

theorem arguments_eq_ok {args : List String} {m : DeviceMode} {override : Option UInt8} :
    arguments args = .ok (m, override) ↔ Accepted args m override := by
  have confirms : confirmation args = .ok () ↔ CONFIRMATION ∈ args := by
    unfold confirmation
    split
    · rename_i present
      simpa using present
    · rename_i absent
      simpa using absent
  constructor
  · intro read
    unfold arguments at read
    cases first : SetDeviceMode.mode args with
    | error e =>
      rw [first] at read
      cases read
    | ok m' =>
      cases second : confirmation args with
      | error e =>
        rw [first, second] at read
        cases read
      | ok =>
        cases third : tidOverride args with
        | error e =>
          rw [first, second, third] at read
          cases read
        | ok override' =>
          rw [first, second, third] at read
          obtain ⟨rfl, rfl⟩ := Prod.mk.inj (Except.ok.inj read)
          exact ⟨mode_eq_ok.mp first, confirms.mp second, tidOverride_eq_ok.mp third⟩
  · rintro ⟨first, second, third⟩
    rw [arguments, mode_eq_ok.mpr first, confirms.mpr second, tidOverride_eq_ok.mpr third]
    rfl

/-- The argument lists that the usage text describes. -/
inductive Documented : List String → DeviceMode → Option UInt8 → Prop
  | plain (m) : Documented [word m, CONFIRMATION] m none
  | confirmedFirst {m raw id} : IsHexByte raw id → Documented [word m, CONFIRMATION, TRANSACTION_ID, raw] m (some id)
  | confirmedLast {m raw id} : IsHexByte raw id → Documented [word m, TRANSACTION_ID, raw, CONFIRMATION] m (some id)

theorem Documented.accepted {args : List String} {m : DeviceMode} {override : Option UInt8}
    (documented : Documented args m override) : Accepted args m override := by
  have other : TRANSACTION_ID ∉ [word m] := by cases m <;> decide
  have others : TRANSACTION_ID ∉ [word m, CONFIRMATION] := by cases m <;> decide
  cases documented with
  | plain => exact ⟨rfl, by simp, .table others⟩
  | confirmedFirst value => exact ⟨rfl, by simp, @Overridden.given _ [_, CONFIRMATION] _ [] _ rfl others value⟩
  | confirmedLast value => exact ⟨rfl, by simp, @Overridden.given _ [_] _ [CONFIRMATION] _ rfl other value⟩

end SetDeviceMode

end OpenRazer
