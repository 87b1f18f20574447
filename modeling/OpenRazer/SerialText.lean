import Mathlib.Data.List.DropRight
import OpenRazer.Library.Latin1
import OpenRazer.Mock
import OpenRazer.Operations

universe u

namespace OpenRazer

/-- The bytes of the serial's window in front of the first NUL. -/
def serialBytes (response : RazerReport) : List UInt8 :=
  (response.arguments.toList.take 22).takeWhile (· != 0)

/-- ASCII white space. -/
def isAsciiSpace (b : UInt8) : Bool :=
  b == 0x20 || (0x09 ≤ b && b ≤ 0x0D)

theorem isWhitespace_char (b : UInt8) : Parse.isWhitespace (Latin1.char b) = isAsciiSpace b := by
  have blank : (b.toNat == 0x20) = (b == 0x20) := by
    rw [Bool.eq_iff_iff, beq_iff_eq, beq_iff_eq, ← UInt8.toNat_inj]
    rfl
  simp only [Parse.isWhitespace, isAsciiSpace, Latin1.toNat_char, blank, UInt8.le_iff_toNat_le]
  rfl

theorem trimEnd_map (bytes : List UInt8) :
    Parse.trimEnd (bytes.map Latin1.char) = (bytes.rdropWhile isAsciiSpace).map Latin1.char := by
  have same : Parse.isWhitespace ∘ Latin1.char = isAsciiSpace := funext isWhitespace_char
  rw [Parse.trimEnd, ← List.map_reverse, List.dropWhile_map, same, List.rdropWhile, List.map_reverse]

theorem all_ascii {bytes : List UInt8} : bytes.all (·.toNat < 0x80) = true ↔ ∀ b ∈ bytes, b < 0x80 := by
  simp only [List.all_eq_true, decide_eq_true_eq, UInt8.lt_iff_toNat_lt]
  rfl

/-- The window, the cut at the NUL and the strip of the parser in one. -/
theorem serial_eq (response : RazerReport) : Parse.serial response =
    if (serialBytes response).all (·.toNat < 0x80) then .ok (Latin1.text ((serialBytes response).rdropWhile isAsciiSpace))
    else .error (.malformed "serial is not ASCII") := by
  have cut (raw : List UInt8) : raw.take ((raw.findIdx? (· == 0x00)).getD raw.length) = raw.takeWhile (· != 0) := by
    rw [← List.findIdx_eq_getD_findIdx?, List.takeWhile_eq_take_findIdx_not]
    congr 2
    funext b
    exact (Bool.not_not _).symm
  have parts : Parse.serial response = if (serialBytes response).all (·.toNat < 0x80) then
      .ok (String.ofList (Parse.trimEnd ((serialBytes response).map Latin1.char))) else .error (.malformed "serial is not ASCII") := by
    simp only [Parse.serial, cut]
    rfl
  simp only [parts, trimEnd_map]
  rfl

/-- What is left of some bytes without the white space behind them. -/
structure Trimmed (bytes kept spaces : List UInt8) : Prop where
  parts : bytes = kept ++ spaces
  spaces : ∀ b ∈ spaces, isAsciiSpace b = true
  last : ∀ b, kept.getLast? = some b → isAsciiSpace b = false

theorem trimmed_rdropWhile (bytes : List UInt8) :
    Trimmed bytes (bytes.rdropWhile isAsciiSpace) (bytes.rtakeWhile isAsciiSpace) where
  parts := List.rdropWhile_append_rtakeWhile.symm
  spaces _ member := List.mem_rtakeWhile_imp member
  last b last := by
    have some : bytes.rdropWhile isAsciiSpace ≠ [] := by
      intro nil
      rw [nil] at last
      cases last
    rw [List.getLast?_eq_some_getLast some] at last
    rw [← Option.some.inj last]
    exact Bool.eq_false_of_not_eq_true (List.rdropWhile_last_not isAsciiSpace bytes some)

theorem Trimmed.kept_eq {bytes kept spaces : List UInt8} (trimmed : Trimmed bytes kept spaces) :
    bytes.rdropWhile isAsciiSpace = kept := by
  obtain ⟨rfl, space, last⟩ := trimmed
  induction spaces using List.reverseRecOn with
  | nil =>
    rw [List.append_nil, List.rdropWhile_eq_self_iff]
    intro some
    rw [last _ (List.getLast?_eq_some_getLast some)]
    exact Bool.false_ne_true
  | append_singleton spaces b ih =>
    rw [← List.append_assoc, List.rdropWhile_concat_pos _ _ _ (space b (by simp))]
    exact ih fun b member => space b (List.mem_append_left _ member)

/-- A text that a device can have as its serial. -/
structure SerialText (text : String) : Prop where
  ascii : ∀ c ∈ text.toList, c.toNat < 0x80
  noNul : '\x00' ∉ text.toList
  length : text.length ≤ 22
  trimmed : ∀ c, text.toList.getLast? = some c → Parse.isWhitespace c = false

/-- A response that has the text in its window, padded with NULs. -/
def Carries (response : RazerReport) (text : String) : Prop :=
  response.arguments.toList.take 22 = Latin1.bytes text ++ List.replicate (22 - text.length) 0

theorem serial_of_carries {response : RazerReport} {text : String} (serial : SerialText text) (carries : Carries response text) :
    Parse.serial response = .ok text := by
  have byte : ∀ b ∈ Latin1.bytes text, b < 0x80 ∧ b ≠ 0 := by
    intro b member
    obtain ⟨c, inside, rfl⟩ := List.mem_map.mp member
    have small := serial.ascii c inside
    have exact : (UInt8.ofNat c.toNat).toNat = c.toNat := UInt8.toNat_ofNat_of_lt' (lt_trans small (by decide))
    refine ⟨?_, fun nul => ?_⟩
    · rw [UInt8.lt_iff_toNat_lt, exact]
      exact small
    · rw [nul] at exact
      have same : c = '\x00' := Char.toNat_inj.mp exact.symm
      exact serial.noNul (same ▸ inside)
  have window : serialBytes response = Latin1.bytes text := by
    have kept : ∀ b ∈ Latin1.bytes text, (b != 0) = true := fun b member => bne_iff_ne.mpr (byte b member).2
    have padding : (List.replicate (22 - text.length) (0 : UInt8)).takeWhile (· != 0) = [] := by
      cases 22 - text.length <;> rfl
    rw [serialBytes, carries, List.takeWhile_append_of_pos kept, padding, List.append_nil]
  have untouched : Trimmed (Latin1.bytes text) (Latin1.bytes text) [] := by
    refine ⟨(List.append_nil _).symm, by simp, fun b last => ?_⟩
    rw [Latin1.bytes, List.getLast?_map] at last
    obtain ⟨c, final, rfl⟩ := Option.map_eq_some_iff.mp last
    have small := serial.ascii c (List.mem_of_getLast? final)
    rw [← isWhitespace_char, Latin1.char_ofNat (by omega)]
    exact serial.trimmed c final
  rw [serial_eq, window, if_pos (all_ascii.mpr fun b member => (byte b member).1), untouched.kept_eq,
    Latin1.text_bytes fun c member => lt_trans (serial.ascii c member) (by decide)]

theorem Status.canonical_of_isOk {status : Status} (fine : status.isOk = true) : status.Canonical := by
  cases status with
  | unknown v => cases fine
  | _ => trivial

/-- Neither check looks at the checksum field. -/
theorem checkResponse_crc (request response : RazerReport) (crc : UInt8) :
    checkResponse request { response with crc := crc } = checkResponse request response := rfl

theorem Carries.crc {response : RazerReport} {text : String} (carries : Carries response text) (crc : UInt8) :
    Carries { response with crc := crc } text := carries

namespace Session

variable {σ : Type u} {H : Host σ} {s : Session σ}

/-- What `serial` makes of the response that the transaction accepts. -/
theorem serial_of_transact {response : RazerReport} {text : String} (capable : s.entry.capabilities.contains .SERIAL = true)
    (played : (transact H Cmd.getSerial s).1 = .ok response) (parsed : Parse.serial response = .ok text) :
    (serial H s).1 = .ok text := by
  have allowed : (require .SERIAL "serial" : SessionM σ Unit) s = (.ok (), s) := by
    rw [Op.require_apply, Op.allowed, if_pos capable]
  rw [serial, Prog.bind_of_ok allowed, Prog.bind_of_ok (Prog.run_of_fst played), Prog.lift_apply, parsed]
  rfl

/-- A serial goes through the encoder, the frame and the decoder unchanged. -/
theorem serial_of_answer {text : String} {response : RazerReport} {got : Nat} {complete : 91 ≤ got}
    (capable : s.entry.capabilities.contains .SERIAL = true) (possible : SerialText text) (carries : Carries response text)
    (accepted : checkResponse Cmd.getSerial response = .ok ())
    (answer : (exchanges H Cmd.getSerial s).1.getLast? = some (.answered got (hidrawBuf response) complete)) :
    (serial H s).1 = .ok text := by
  have canonical := Status.canonical_of_isOk (checkResponse_isOk accepted)
  have decoded : RazerReport.fromBytes (hidrawBuf response).report = { response with crc := OpenRazer.crc response.toBytes } := by
    rw [report_hidrawBuf, RazerReport.fromBytes_toBytes canonical]
  have unjudged : (Attempt.answered got (hidrawBuf response) complete).rejection Cmd.getSerial = none := by
    rw [Attempt.rejection, Attempt.response, decoded, Option.map_some, checkResponse_crc, accepted]
  have played : (transact H Cmd.getSerial s).1 = .ok { response with crc := OpenRazer.crc response.toBytes } := by
    rw [transact_accepted rfl]
    change outcome Cmd.getSerial (exchanges H Cmd.getSerial s).1 = _
    rw [outcome_last answer, unjudged, ← decoded]
    rfl
  exact serial_of_transact capable played (serial_of_carries possible (carries.crc _))

end Session

theorem serialText_of_trimmed {response : RazerReport} {kept spaces : List UInt8}
    (ascii : ∀ b ∈ serialBytes response, b < 0x80) (trimmed : Trimmed (serialBytes response) kept spaces) :
    SerialText (Latin1.text kept) := by
  have inside : ∀ b ∈ kept, b ∈ serialBytes response := by
    intro b member
    rw [trimmed.parts]
    exact List.mem_append_left _ member
  have origin : ∀ c ∈ (Latin1.text kept).toList, ∃ b ∈ kept, Latin1.char b = c := by
    intro c member
    rw [Latin1.text, String.toList_ofList] at member
    exact List.mem_map.mp member
  refine ⟨?_, ?_, ?_, ?_⟩
  · intro c member
    obtain ⟨b, among, rfl⟩ := origin c member
    rw [Latin1.toNat_char]
    exact UInt8.lt_iff_toNat_lt.mp (ascii b (inside b among))
  · intro nul
    obtain ⟨b, among, same⟩ := origin _ nul
    have zero : b = 0 := by
      have number := congrArg Char.toNat same
      rw [Latin1.toNat_char] at number
      exact UInt8.toNat_inj.mp number
    have kept := List.mem_takeWhile_imp (inside b among)
    rw [zero] at kept
    cases kept
  · have window : (serialBytes response).length ≤ 22 :=
      le_trans (List.takeWhile_prefix _).length_le (List.length_take_le 22 _)
    rw [trimmed.parts, List.length_append] at window
    rw [← String.length_toList, Latin1.text, String.toList_ofList, List.length_map]
    omega
  · intro c last
    rw [Latin1.text, String.toList_ofList, List.getLast?_map] at last
    obtain ⟨b, final, rfl⟩ := Option.map_eq_some_iff.mp last
    rw [isWhitespace_char]
    exact trimmed.last b final

/-- The serial is the ASCII text of the window in front of the first NUL,
without the white space behind it, and of nothing else in the response; a
device's serial comes back as it was sent. -/
theorem serial_exact :
    (∀ response, (∃ text, Parse.serial response = .ok text) ↔ ∀ b ∈ serialBytes response, b < 0x80) ∧
    (∀ response text, Parse.serial response = .ok text ↔ (∀ b ∈ serialBytes response, b < 0x80) ∧
      ∃ kept spaces, Trimmed (serialBytes response) kept spaces ∧ text = Latin1.text kept) ∧
    (∀ response text, Parse.serial response = .ok text → SerialText text) ∧
    (∀ response response', serialBytes response = serialBytes response' → Parse.serial response = Parse.serial response') ∧
    ∀ {σ : Type u} (H : Host σ) (s : Session σ) (response : RazerReport) (text : String) (got : Nat) (complete : 91 ≤ got),
      s.entry.capabilities.contains .SERIAL = true → SerialText text → Carries response text →
      checkResponse Cmd.getSerial response = .ok () →
      (s.exchanges H Cmd.getSerial).1.getLast? = some (.answered got (hidrawBuf response) complete) →
      (Session.serial H s).1 = .ok text := by
  have parsed (response : RazerReport) (text : String) : Parse.serial response = .ok text ↔
      (∀ b ∈ serialBytes response, b < 0x80) ∧ ∃ kept spaces, Trimmed (serialBytes response) kept spaces ∧ text = Latin1.text kept := by
    rw [serial_eq]
    constructor
    · intro taken
      split at taken
      · rename_i ascii
        exact ⟨all_ascii.mp ascii, _, _, trimmed_rdropWhile _, (Except.ok.inj taken).symm⟩
      · cases taken
    · rintro ⟨ascii, kept, spaces, trimmed, rfl⟩
      rw [if_pos (all_ascii.mpr ascii), trimmed.kept_eq]
  refine ⟨?_, parsed, ?_, ?_, ?_⟩
  · intro response
    constructor
    · rintro ⟨text, taken⟩
      exact ((parsed response text).mp taken).1
    · intro ascii
      exact ⟨_, (parsed response _).mpr ⟨ascii, _, _, trimmed_rdropWhile _, rfl⟩⟩
  · intro response text taken
    obtain ⟨ascii, kept, spaces, trimmed, rfl⟩ := (parsed response text).mp taken
    exact serialText_of_trimmed ascii trimmed
  · intro response response' same
    rw [serial_eq, serial_eq, same]
  · intro σ H s response text got complete capable possible carries accepted answer
    exact Session.serial_of_answer capable possible carries accepted answer

/-- A serial in its window. -/
def engraved : RazerReport :=
  { Cmd.getSerial with status := .successful }.withArgs #v[0x50, 0x4D, 0x32, 0x31] (by decide)

/-- A mouse that refuses at first gives its serial when it is asked again. -/
theorem serial_exact_second_try :
    let mouse := (({} : Mock).pushResponse { Cmd.getSerial with status := .failure }).pushResponse engraved
    (Session.serial Mock.host (Session.new TABLE[1] mouse)).1 = .ok "PM21" := by
  intro mouse
  obtain ⟨_, _, _, _, comesBack⟩ := serial_exact
  have possible : SerialText "PM21" := by
    refine ⟨fun c member => ?_, by decide, by decide, fun c last => ?_⟩
    · have letters : c = 'P' ∨ c = 'M' ∨ c = '2' ∨ c = '1' := by simpa using member
      rcases letters with rfl | rfl | rfl | rfl <;> decide
    · obtain rfl := Option.some.inj last
      decide
  have carries : Carries engraved "PM21" := by
    rw [Carries]
    decide
  have accepted : checkResponse Cmd.getSerial engraved = .ok () := by decide
  exact comesBack Mock.host _ engraved "PM21" 91 (by decide) (by decide) possible carries accepted rfl

end OpenRazer
