import OpenRazer.Arguments
import OpenRazer.Library.Collections
import OpenRazer.Lookup
import OpenRazer.SysfsState

universe u

namespace OpenRazer

/-- How far up to look for the USB interface directory. -/
def MAX_ANCESTOR_WALK : Nat := 12

/-- `std::num::IntErrorKind`, as far as an unsigned number can fail. -/
inductive IntErrorKind
  | empty
  | invalidDigit
  | posOverflow
deriving DecidableEq

def IntErrorKind.toString : IntErrorKind → String
  | .empty => "cannot parse integer from empty string"
  | .invalidDigit => "invalid digit found in string"
  | .posOverflow => "number too large to fit in target type"

/-- The loop of `u32::from_str_radix`, behind what was read already. -/
def readDigits : List Char → Nat → Except IntErrorKind Nat
  | [], read => .ok read
  | c :: rest, read =>
    if ¬isAsciiHexdigit c then .error .invalidDigit
    else if read * 16 + hexDigit c < 4294967296 then readDigits rest (read * 16 + hexDigit c)
    else .error .posOverflow

/-- `u32::from_str_radix(text, 16)`: one optional plus sign, then digits that fit. -/
def fromStrRadix16 : List Char → Except IntErrorKind Nat
  | [] => .error .empty
  | ['+'] => .error .invalidDigit
  | '+' :: digits => readDigits digits 0
  | digits => readDigits digits 0

/-- `Path::display`. -/
def SysPath.display (path : SysPath) : String :=
  "/" ++ String.intercalate "/" path.reverse

/-- What the file system answers about `/sys` at one moment. -/
structure SysFiles where
  /-- The listing of `/sys/class/hidraw`: an entry that could not be read has its error
  number, and a name that is not Unicode is `none`. -/
  readDir : Except (Option Int) (List (Except (Option Int) (Option String)))
  /-- `/sys/class/hidraw/NAME/device` with its links resolved. -/
  canonicalize : String → Option SysPath
  isFile : SysPath → String → Bool
  readToString : SysPath → String → Except String String

/-- `TryFrom<u32>` of the attributes. -/
def tryU16 (value : Nat) : Option UInt16 :=
  if value < 65536 then some (UInt16.ofNat value) else none

def tryU8 (value : Nat) : Option UInt8 :=
  if value < 256 then some (UInt8.ofNat value) else none

namespace RealSysfs

def readDirError (errno : Option Int) : HidError :=
  .io "read_dir(/sys/class/hidraw)" (errno.getD 0)

/-- The loop of `hidrawNames`: the first entry that cannot be read ends it. -/
def collectNames : List (Except (Option Int) (Option String)) → Except HidError (List String)
  | [] => .ok []
  | .error errno :: _ => .error (readDirError errno)
  | .ok none :: rest => collectNames rest
  | .ok (some name) :: rest => do return name :: (← collectNames rest)

def hidrawNames (files : SysFiles) : Except HidError (List String) :=
  match files.readDir with
  | .error errno => .error (readDirError errno)
  | .ok entries => collectNames entries

/-- A hexadecimal attribute. `debug` is the text of `{:?}`. -/
def readHex {T : Type} (debug : String → String) (tryFrom : Nat → Option T) (files : SysFiles) (dir : SysPath)
    (attr : String) : Except HidError T :=
  let path := SysPath.display (attr :: dir)
  match files.readToString dir attr with
  | .error e => .error (.sysfs (path ++ ": " ++ e))
  | .ok raw =>
    let text := Words.trim raw.toList
    match fromStrRadix16 text with
    | .error e => .error (.sysfs (path ++ ": " ++ debug (String.ofList text) ++ " is not hex: " ++ e.toString))
    | .ok value =>
      match tryFrom value with
      | none => .error (.sysfs (path ++ ": 0x" ++ hex 1 value ++ " does not fit the expected width"))
      | some value => .ok value

def interfaceInfo (debug : String → String) (files : SysFiles) (hidrawName : String) :
    Except HidError (Option UsbInterfaceInfo) :=
  match files.canonicalize hidrawName with
  | none => .ok none
  | some resolved =>
    match (resolved.tails.take MAX_ANCESTOR_WALK).find? fun dir => files.isFile dir "bInterfaceNumber" with
    | none | some [] => .ok none
    | some (name :: usb) =>
      if ¬files.isFile usb "idVendor" then .ok none
      else do
        let vendorId ← readHex debug tryU16 files usb "idVendor"
        let productId ← readHex debug tryU16 files usb "idProduct"
        let interfaceNumber ← readHex debug tryU8 files (name :: usb) "bInterfaceNumber"
        let interfaceProtocol ← readHex debug tryU8 files (name :: usb) "bInterfaceProtocol"
        return some ⟨vendorId, productId, interfaceNumber, interfaceProtocol⟩

/-- The walker over whatever `/sys` is at each call. -/
def source {S : Type u} (debug : String → String) (files : S → SysFiles) : SysfsSource S where
  hidrawNames s := (hidrawNames (files s), s)
  interfaceInfo name s := (interfaceInfo debug (files s) name, s)
  devicePath name := "/dev/" ++ name

end RealSysfs

/-- At most one plus sign, then hex digits, at least one, of that value. -/
def Spells (text : List Char) (n : Nat) : Prop :=
  ∃ sign digits, text = sign ++ digits ∧ sign ∈ [[], ['+']] ∧ digits ≠ [] ∧
    (∀ c ∈ digits, isAsciiHexdigit c = true) ∧ Numeral.value 16 (digits.map hexDigit) = n

theorem readDigits_eq_ok {digits : List Char} {read n : Nat} (fits : read < 4294967296) :
    readDigits digits read = .ok n ↔ (∀ c ∈ digits, isAsciiHexdigit c = true) ∧
      n = read * 16 ^ digits.length + Numeral.value 16 (digits.map hexDigit) ∧ n < 4294967296 := by
  have checked : readDigits digits read = .ok n ↔
      (∀ c ∈ digits, isAsciiHexdigit c = true) ∧ Numeral.readChecked 16 4294967296 (digits.map hexDigit) read = some n := by
    induction digits generalizing read with
    | nil => simp [readDigits, Numeral.readChecked]
    | cons c rest ih =>
      rw [readDigits, List.map_cons, Numeral.readChecked_cons, List.forall_mem_cons]
      by_cases digit : isAsciiHexdigit c = true
      · by_cases small : read * 16 + hexDigit c < 4294967296
        · simp only [digit, not_true_eq_false, small, if_true, if_false, true_and, ih small]
        · simp [digit, small]
      · simp [digit]
  rw [checked, Numeral.readChecked_eq_some (by decide) fits, List.length_map]

/-- A digit that is not one, or a value too large, is an error whatever comes after it. -/
theorem fromStrRadix16_eq_ok {text : List Char} {n : Nat} :
    fromStrRadix16 text = .ok n ↔ Spells text n ∧ n < 4294967296 := by
  have digitsOnly {digits : List Char} (some : digits ≠ []) : readDigits digits 0 = .ok n ↔
      (digits ≠ [] ∧ (∀ c ∈ digits, isAsciiHexdigit c = true) ∧ Numeral.value 16 (digits.map hexDigit) = n) ∧ n < 4294967296 := by
    rw [readDigits_eq_ok (by decide), Nat.zero_mul, Nat.zero_add]
    constructor
    · rintro ⟨hex, same, small⟩
      exact ⟨⟨some, hex, same.symm⟩, small⟩
    · rintro ⟨⟨_, hex, same⟩, small⟩
      exact ⟨hex, same.symm, small⟩
  have unsigned {digits : List Char} (plain : digits.head? ≠ Option.some '+') : Spells digits n ↔
      digits ≠ [] ∧ (∀ c ∈ digits, isAsciiHexdigit c = true) ∧ Numeral.value 16 (digits.map hexDigit) = n := by
    constructor
    · rintro ⟨sign, rest, rfl, known, spelled⟩
      simp only [List.mem_cons, List.not_mem_nil, or_false] at known
      rcases known with rfl | rfl
      · exact spelled
      · exact absurd rfl plain
    · intro spelled
      exact ⟨[], digits, rfl, by simp, spelled⟩
  have signed {digits : List Char} : Spells ('+' :: digits) n ↔
      digits ≠ [] ∧ (∀ c ∈ digits, isAsciiHexdigit c = true) ∧ Numeral.value 16 (digits.map hexDigit) = n := by
    constructor
    · rintro ⟨sign, rest, split, known, some, hex, spelled⟩
      simp only [List.mem_cons, List.not_mem_nil, or_false] at known
      rcases known with rfl | rfl
      · rw [List.nil_append] at split
        exact absurd (hex '+' (split ▸ List.mem_cons_self ..)) (by decide)
      · obtain ⟨_, rfl⟩ := List.cons_eq_cons.mp split
        exact ⟨some, hex, spelled⟩
    · intro spelled
      exact ⟨['+'], digits, rfl, by simp, spelled⟩
  unfold fromStrRadix16
  split
  · rw [unsigned (by simp)]
    simp
  · rw [signed]
    simp
  · rename_i digits notAlone
    rw [signed]
    exact digitsOnly fun empty => notAlone (by rw [empty])
  · rename_i notEmpty notAlone notSigned
    have plain : text.head? ≠ Option.some '+' := by
      intro first
      cases text with
      | nil => cases first
      | cons c rest => exact notSigned rest (by rw [Option.some.inj first])
    rw [unsigned plain]
    exact digitsOnly notEmpty

theorem tryU16_eq_some {n : Nat} {v : UInt16} : tryU16 n = some v ↔ n = v.toNat := by
  have bound := v.toNat_lt
  unfold tryU16
  constructor
  · intro taken
    split at taken
    · rename_i small
      rw [← Option.some.inj taken, UInt16.toNat_ofNat_of_lt' small]
    · cases taken
  · rintro rfl
    rw [if_pos bound, UInt16.ofNat_toNat]

theorem tryU8_eq_some {n : Nat} {v : UInt8} : tryU8 n = some v ↔ n = v.toNat := by
  have bound := v.toNat_lt
  unfold tryU8
  constructor
  · intro taken
    split at taken
    · rename_i small
      rw [← Option.some.inj taken, UInt8.toNat_ofNat_of_lt' small]
    · cases taken
  · rintro rfl
    rw [if_pos bound, UInt8.ofNat_toNat]

namespace SysFiles
variable (files : SysFiles)

/-- The file can be read, and white space around a number is all that is in it. -/
def Reads (dir : SysPath) (attr : String) (n : Nat) : Prop :=
  ∃ raw, files.readToString dir attr = .ok raw ∧ Spells (Words.trim raw.toList) n

/-- The USB interface directory over a hidraw node: the nearest one with a `bInterfaceNumber`, not too far up. -/
def Owns (hidrawName name : String) (usb : SysPath) : Prop :=
  ∃ below, files.canonicalize hidrawName = some (below ++ name :: usb) ∧ below.length < MAX_ANCESTOR_WALK ∧
    files.isFile (name :: usb) "bInterfaceNumber" = true ∧
    ∀ nearer farther, below = nearer ++ farther → farther ≠ [] → files.isFile (farther ++ name :: usb) "bInterfaceNumber" = false

/-- The interface over a hidraw node is one of a USB device. -/
def OnUsb (hidrawName name : String) (usb : SysPath) : Prop :=
  files.Owns hidrawName name usb ∧ files.isFile usb "idVendor" = true

/-- What the attributes over a hidraw node say. -/
def Describes (hidrawName : String) (info : UsbInterfaceInfo) : Prop :=
  ∃ name usb, files.OnUsb hidrawName name usb ∧ files.Reads usb "idVendor" info.vendorId.toNat ∧
    files.Reads usb "idProduct" info.productId.toNat ∧
    files.Reads (name :: usb) "bInterfaceNumber" info.interfaceNumber.toNat ∧
    files.Reads (name :: usb) "bInterfaceProtocol" info.interfaceProtocol.toNat

end SysFiles

namespace RealSysfs
variable {files : SysFiles} {debug : String → String} {T : Type} {tryFrom : Nat → Option T} {dir : SysPath} {attr : String}

theorem readHex_eq_ok {v : T} : readHex debug tryFrom files dir attr = .ok v ↔
    ∃ n, files.Reads dir attr n ∧ n < 4294967296 ∧ tryFrom n = some v := by
  unfold readHex
  cases content : files.readToString dir attr with
  | error e => simp [SysFiles.Reads, content]
  | ok raw =>
    have spelled (n : Nat) : files.Reads dir attr n ↔ Spells (Words.trim raw.toList) n := by
      simp [SysFiles.Reads, content]
    simp only [spelled, ← and_assoc, ← fromStrRadix16_eq_ok]
    cases read : fromStrRadix16 (Words.trim raw.toList) with
    | error e => simp
    | ok n =>
      simp only [Except.ok.injEq, exists_eq_left']
      cases tryFrom n <;> simp

theorem readHex_u16 {v : UInt16} : readHex debug tryU16 files dir attr = .ok v ↔ files.Reads dir attr v.toNat := by
  have bound := v.toNat_lt
  rw [readHex_eq_ok]
  constructor
  · rintro ⟨n, spelled, _, taken⟩
    rwa [tryU16_eq_some.mp taken] at spelled
  · intro spelled
    exact ⟨v.toNat, spelled, by omega, tryU16_eq_some.mpr rfl⟩

theorem readHex_u8 {v : UInt8} : readHex debug tryU8 files dir attr = .ok v ↔ files.Reads dir attr v.toNat := by
  have bound := v.toNat_lt
  rw [readHex_eq_ok]
  constructor
  · rintro ⟨n, spelled, _, taken⟩
    rwa [tryU8_eq_some.mp taken] at spelled
  · intro spelled
    exact ⟨v.toNat, spelled, by omega, tryU8_eq_some.mpr rfl⟩

/-- The walk finds the interface that owns a node, or no interface at all. -/
theorem find?_owner {resolved usb : SysPath} {hidrawName name : String} (resolves : files.canonicalize hidrawName = some resolved) :
    ((resolved.tails.take MAX_ANCESTOR_WALK).find? fun dir => files.isFile dir "bInterfaceNumber") = some (name :: usb) ↔
      files.Owns hidrawName name usb := by
  rw [Collections.find?_tails, SysFiles.Owns]
  simp only [resolves, Option.some.injEq]

theorem interfaceInfo_onUsb {hidrawName name : String} {usb : SysPath} (onUsb : files.OnUsb hidrawName name usb) :
    interfaceInfo debug files hidrawName = (do
      let vendorId ← readHex debug tryU16 files usb "idVendor"
      let productId ← readHex debug tryU16 files usb "idProduct"
      let interfaceNumber ← readHex debug tryU8 files (name :: usb) "bInterfaceNumber"
      let interfaceProtocol ← readHex debug tryU8 files (name :: usb) "bInterfaceProtocol"
      return some ⟨vendorId, productId, interfaceNumber, interfaceProtocol⟩) := by
  obtain ⟨owns, vendor⟩ := onUsb
  obtain ⟨below, resolves, _⟩ := id owns
  have found := (find?_owner resolves).mpr owns
  unfold interfaceInfo
  simp only [resolves, found, vendor, not_true_eq_false, if_false]

theorem interfaceInfo_offUsb {hidrawName : String} (off : ∀ name usb, ¬files.OnUsb hidrawName name usb) :
    interfaceInfo debug files hidrawName = .ok none := by
  unfold interfaceInfo
  cases resolves : files.canonicalize hidrawName with
  | none => rfl
  | some resolved =>
    simp only
    split
    · rfl
    · rfl
    · rename_i name usb found
      have owns := (find?_owner resolves).mp found
      rw [if_pos fun vendor => off name usb ⟨owns, vendor⟩]

theorem owns_unique {hidrawName name name' : String} {usb usb' : SysPath} (owns : files.Owns hidrawName name usb)
    (owns' : files.Owns hidrawName name' usb') : name = name' ∧ usb = usb' := by
  obtain ⟨below, resolves, _⟩ := id owns
  have found := (find?_owner resolves).mpr owns
  rw [(find?_owner resolves).mpr owns'] at found
  obtain ⟨same, same'⟩ := List.cons_eq_cons.mp (Option.some.inj found)
  exact ⟨same.symm, same'.symm⟩

/-- A node is nobody's exactly when no USB interface is close enough above it. -/
theorem interfaceInfo_eq_none {hidrawName : String} :
    interfaceInfo debug files hidrawName = .ok none ↔ ∀ name usb, ¬files.OnUsb hidrawName name usb := by
  constructor
  · intro absent name usb onUsb
    rw [interfaceInfo_onUsb onUsb] at absent
    simp only [Prog.except_bind_ok] at absent
    obtain ⟨_, _, _, _, _, _, _, _, some⟩ := absent
    cases some
  · exact interfaceInfo_offUsb

theorem interfaceInfo_eq_some {hidrawName : String} {info : UsbInterfaceInfo} :
    interfaceInfo debug files hidrawName = .ok (some info) ↔ files.Describes hidrawName info := by
  by_cases usb : ∃ name usb, files.OnUsb hidrawName name usb
  · obtain ⟨name, usb, onUsb⟩ := usb
    have here : files.Describes hidrawName info ↔ files.Reads usb "idVendor" info.vendorId.toNat ∧
        files.Reads usb "idProduct" info.productId.toNat ∧ files.Reads (name :: usb) "bInterfaceNumber" info.interfaceNumber.toNat ∧
        files.Reads (name :: usb) "bInterfaceProtocol" info.interfaceProtocol.toNat := by
      constructor
      · rintro ⟨name', usb', onUsb', read⟩
        obtain ⟨rfl, rfl⟩ := owns_unique onUsb.1 onUsb'.1
        exact read
      · exact fun read => ⟨name, usb, onUsb, read⟩
    rw [interfaceInfo_onUsb onUsb, here, ← @readHex_u16 files debug, ← @readHex_u16 files debug,
      ← @readHex_u8 files debug, ← @readHex_u8 files debug]
    simp only [Prog.except_bind_ok]
    constructor
    · rintro ⟨vendorId, vendor, productId, product, number, numbered, protocol, spoken, same⟩
      cases same
      exact ⟨vendor, product, numbered, spoken⟩
    · rintro ⟨vendor, product, numbered, spoken⟩
      exact ⟨_, vendor, _, product, _, numbered, _, spoken, rfl⟩
  · have off : ∀ name usb, ¬files.OnUsb hidrawName name usb := fun name above onUsb => usb ⟨name, above, onUsb⟩
    rw [interfaceInfo_offUsb off]
    simp only [Except.ok.injEq, reduceCtorEq, false_iff]
    rintro ⟨name, above, onUsb, _⟩
    exact off name above onUsb

end RealSysfs

end OpenRazer
