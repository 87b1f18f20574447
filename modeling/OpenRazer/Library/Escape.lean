import Mathlib.Data.List.Basic

universe u

/-- How characters that mean something to a reader are written in a text: a
mark, then a letter. The mark is one of them itself. -/
structure Escape (α : Type u) where
  mark : α
  letter : α → Option α
  meaning : α → α
  meaning_letter : ∀ {c l}, letter c = some l → meaning l = c
  marked : (letter mark).isSome

namespace Escape

variable {α : Type u} (T : Escape α)

def encode (c : α) : List α :=
  match T.letter c with
  | some l => [T.mark, l]
  | none => [c]

def escape (text : List α) : List α :=
  text.flatMap T.encode

section

variable {T}

theorem ne_mark_of_plain {c : α} (plain : T.letter c = none) : c ≠ T.mark := by
  rintro rfl
  have marked := T.marked
  rw [plain] at marked
  cases marked

theorem escape_cons (c : α) (text : List α) : T.escape (c :: text) = T.encode c ++ T.escape text :=
  List.flatMap_cons

/-- A character that has to be escaped does not come out raw. -/
theorem not_mem_escape {c : α} (special : (T.letter c).isSome) (apart : c ≠ T.mark) (unused : ∀ d, T.letter d ≠ some c)
    (text : List α) : c ∉ T.escape text := by
  intro member
  obtain ⟨d, _, inside⟩ := List.mem_flatMap.mp member
  unfold encode at inside
  split at inside
  · rename_i l letter
    rcases List.mem_cons.mp inside with same | last
    · exact apart same
    · exact unused d (letter.trans (congrArg some (List.mem_singleton.mp last).symm))
  · rename_i plain
    rw [List.mem_singleton.mp inside, plain] at special
    cases special

theorem modifyHead_nil (cut : List (List α)) : cut.modifyHead ([] ++ ·) = cut := by
  cases cut <;> rfl

theorem modifyHead_append (first second : List α) (cut : List (List α)) :
    (cut.modifyHead (second ++ ·)).modifyHead (first ++ ·) = cut.modifyHead (first ++ second ++ ·) := by
  cases cut with
  | nil => rfl
  | cons head tail => simp only [List.modifyHead_cons, List.append_assoc]

end

variable [DecidableEq α]

/-- Undo it; the flag says that the mark has just been read. -/
def unescape : Bool → List α → List α
  | _, [] => []
  | true, c :: rest => T.meaning c :: unescape false rest
  | false, c :: rest => if c = T.mark then unescape true rest else c :: unescape false rest

/-- Undo it where the text keeps to the table: behind a mark only letters that
the table has, and nothing raw that the table writes with a mark. -/
def decode : Bool → List α → Option (List α)
  | false, [] => some []
  | true, [] => none
  | true, l :: rest => if T.letter (T.meaning l) = some l then (decode false rest).map (T.meaning l :: ·) else none
  | false, c :: rest =>
    if c = T.mark then decode true rest
    else if (T.letter c).isSome then none
    else (decode false rest).map (c :: ·)

/-- Cut a text at its separators, but for those behind a mark. -/
def pieces (separator : α) : Bool → List α → List (List α)
  | _, [] => [[]]
  | true, c :: rest => (pieces separator false rest).modifyHead (c :: ·)
  | false, c :: rest =>
    if c = separator then [] :: pieces separator false rest
    else (pieces separator (decide (c = T.mark)) rest).modifyHead (c :: ·)

/-- Every second piece: what stands between two separators. -/
def between {β : Type u} : List β → List β
  | _ :: value :: rest => value :: between rest
  | _ => []

/-- What a text has in quotes, read back. -/
def quoted (quote : α) (text : List α) : List (List α) :=
  (between (T.pieces quote false text)).map (T.unescape false)

variable {T}

/-- The text behind an escaped one is read as if it stood alone. -/
theorem unescape_escape_append (text rest : List α) :
    T.unescape false (T.escape text ++ rest) = text ++ T.unescape false rest := by
  induction text with
  | nil => rfl
  | cons c text ih =>
    rw [escape_cons, encode]
    cases special : T.letter c with
    | none =>
      simp only [List.cons_append, List.nil_append, unescape, if_neg (ne_mark_of_plain special), ih]
    | some l =>
      simp only [List.cons_append, List.nil_append, unescape, if_true, T.meaning_letter special, ih]

theorem unescape_escape (text : List α) : T.unescape false (T.escape text) = text := by
  have whole := unescape_escape_append (T := T) text []
  rwa [List.append_nil, unescape, List.append_nil] at whole

theorem pieces_cons_plain {separator c : α} (notSeparator : c ≠ separator) (notMark : c ≠ T.mark) (rest : List α) :
    T.pieces separator false (c :: rest) = (T.pieces separator false rest).modifyHead ([c] ++ ·) := by
  rw [pieces, if_neg notSeparator, decide_eq_false notMark]
  rfl

/-- Plain text stays in one piece with what follows. -/
theorem pieces_plain_append {separator : α} {text : List α} (plain : ∀ c ∈ text, c ≠ separator ∧ c ≠ T.mark)
    (rest : List α) :
    T.pieces separator false (text ++ rest) = (T.pieces separator false rest).modifyHead (text ++ ·) := by
  induction text with
  | nil => exact (modifyHead_nil _).symm
  | cons c text ih =>
    obtain ⟨here, later⟩ := List.forall_mem_cons.mp plain
    rw [List.cons_append, pieces_cons_plain here.1 here.2, ih later, modifyHead_append]
    rfl

/-- So does escaped text, whatever it says. -/
theorem pieces_escape_append {separator : α} (special : (T.letter separator).isSome) (text rest : List α)
    (apart : separator ≠ T.mark) :
    T.pieces separator false (T.escape text ++ rest) =
      (T.pieces separator false rest).modifyHead (T.escape text ++ ·) := by
  induction text with
  | nil => exact (modifyHead_nil _).symm
  | cons c text ih =>
    rw [escape_cons, List.append_assoc, encode]
    cases letter : T.letter c with
    | none =>
      have notSeparator : c ≠ separator := by
        rintro rfl
        rw [letter] at special
        cases special
      rw [List.singleton_append, pieces_cons_plain notSeparator (ne_mark_of_plain letter), ih, modifyHead_append]
    | some l =>
      have marked : T.pieces separator false (T.mark :: l :: (T.escape text ++ rest)) =
          ((T.pieces separator false (T.escape text ++ rest)).modifyHead (l :: ·)).modifyHead (T.mark :: ·) := by
        rw [pieces, if_neg apart.symm, decide_eq_true rfl, pieces]
      rw [List.cons_append, List.singleton_append, marked, ih]
      cases T.pieces separator false rest <;> rfl

theorem pieces_separator (separator : α) (rest : List α) :
    T.pieces separator false (separator :: rest) = [] :: T.pieces separator false rest := by
  rw [pieces, if_pos rfl]

/-- A quoted value: the plain text in front of it is one piece, the escaped value the next. -/
theorem pieces_quoted {quote : α} (special : (T.letter quote).isSome) (apart : quote ≠ T.mark) {front : List α}
    (plain : ∀ c ∈ front, c ≠ quote ∧ c ≠ T.mark) (text rest : List α) :
    T.pieces quote false (front ++ quote :: (T.escape text ++ quote :: rest)) =
      front :: T.escape text :: T.pieces quote false rest := by
  rw [pieces_plain_append plain, pieces_separator, pieces_escape_append special text _ apart, pieces_separator]
  simp only [List.modifyHead_cons, List.append_nil]

theorem pieces_plain {separator : α} {text : List α} (plain : ∀ c ∈ text, c ≠ separator ∧ c ≠ T.mark) :
    T.pieces separator false text = [text] := by
  have whole := pieces_plain_append plain []
  rw [List.append_nil] at whole
  simp only [whole, pieces, List.modifyHead_cons, List.append_nil]

theorem quoted_append {quote : α} (special : (T.letter quote).isSome) (apart : quote ≠ T.mark) {front : List α}
    (plain : ∀ c ∈ front, c ≠ quote ∧ c ≠ T.mark) (text rest : List α) :
    T.quoted quote (front ++ quote :: (T.escape text ++ quote :: rest)) = text :: T.quoted quote rest := by
  rw [quoted, pieces_quoted special apart plain, between, List.map_cons, unescape_escape, quoted]

theorem quoted_plain {quote : α} {text : List α} (plain : ∀ c ∈ text, c ≠ quote ∧ c ≠ T.mark) : T.quoted quote text = [] := by
  rw [quoted, pieces_plain plain]
  rfl

/-- A table that has all of another one, and writes the rest with letters that are new. -/
structure Extends (T' T : Escape α) : Prop where
  mark : T'.mark = T.mark
  letter : ∀ {c l}, T.letter c = some l → T'.letter c = some l
  fresh : ∀ {c l d}, T'.letter c = some l → T.letter c = none → T.letter d ≠ some l

theorem decode_mark (l : α) (rest : List α) : T.decode false (T.mark :: l :: rest) =
    if T.letter (T.meaning l) = some l then (T.decode false rest).map (T.meaning l :: ·) else none := by
  rw [decode, if_pos rfl, decode]

theorem decode_plain {c : α} (plain : T.letter c = none) (rest : List α) :
    T.decode false (c :: rest) = (T.decode false rest).map (c :: ·) := by
  rw [decode, if_neg (ne_mark_of_plain plain), plain, if_neg (by simp)]

/-- A reader of the smaller table takes exactly the texts whose characters both tables write the same way. -/
theorem decode_escape {T' : Escape α} (extend : T'.Extends T) (text : List α) :
    T.decode false (T'.escape text) = if ∀ c ∈ text, T'.letter c = T.letter c then some text else none := by
  induction text with
  | nil => rfl
  | cons c text ih =>
    have goesOn : (if ∀ d ∈ text, T'.letter d = T.letter d then some text else none).map (c :: ·) =
        if ∀ d ∈ text, T'.letter d = T.letter d then some (c :: text) else none := by
      split <;> rfl
    rw [escape_cons, encode]
    cases known : T.letter c with
    | some l =>
      simp only [extend.letter known, extend.mark, List.cons_append, List.nil_append, decode_mark, T.meaning_letter known, known,
        if_true, ih, goesOn, List.forall_mem_cons, true_and]
    | none =>
      cases letter : T'.letter c with
      | none =>
        simp only [List.cons_append, List.nil_append, decode_plain known, ih, goesOn, List.forall_mem_cons, known, letter, true_and]
      | some l =>
        have unknown : T.letter (T.meaning l) ≠ some l := extend.fresh letter known
        simp only [extend.mark, List.cons_append, List.nil_append, decode_mark, if_neg unknown, List.forall_mem_cons, known,
          letter, reduceCtorEq, false_and, if_false]

/-- Every text that was written under the table is read back. -/
theorem decode_escape_self (text : List α) : T.decode false (T.escape text) = some text := by
  have itself : T.Extends T := ⟨rfl, id, fun letter plain => by rw [plain] at letter; cases letter⟩
  rw [decode_escape itself, if_pos fun _ _ => rfl]

end Escape
