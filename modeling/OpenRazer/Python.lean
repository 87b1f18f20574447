import OpenRazer.Library.Words

/-! Built-ins of the language that the tools are written in. -/

namespace OpenRazer.Python

/-- `str.isspace`: four separators more than Unicode white space has. -/
def isSpace (c : Char) : Bool :=
  Words.isSpace c || (0x1C ≤ c.toNat && c.toNat ≤ 0x1F)

/-- `str.strip`. -/
def strip (text : String) : String :=
  String.ofList ((text.toList.dropWhile isSpace).rdropWhile isSpace)

/-- Decimal digits, with single underscores between them. -/
def digits? : List Char → Nat → Option Nat
  | [], _ => none
  | [c], read => if c.isDigit then some (read * 10 + (c.toNat - 48)) else none
  | c :: '_' :: rest, read => if c.isDigit then digits? rest (read * 10 + (c.toNat - 48)) else none
  | c :: rest, read => if c.isDigit then digits? rest (read * 10 + (c.toNat - 48)) else none

/-- `int(text)`, on ASCII digits. -/
def int? (text : String) : Option Int :=
  match (strip text).toList with
  | '-' :: rest => (digits? rest 0).map fun n => -n
  | '+' :: rest => (digits? rest 0).map fun n => n
  | rest => (digits? rest 0).map fun n => n

end OpenRazer.Python
