import OpenRazer.Metrics

namespace OpenRazer

/-- The characters that the exposition format escapes in a label value. -/
def LabelEscape : Escape Char where
  mark := '\\'
  letter c :=
    if c = '\\' then some '\\' else if c = '\x22' then some '\x22' else if c = '\n' then some 'n'
    else if c = '\r' then some 'r' else none
  meaning l := if l = 'n' then '\n' else if l = 'r' then '\r' else l
  meaning_letter {c l} special := by
    split_ifs at special with slash quote newline carriage
    all_goals cases special
    · rw [slash]
      rfl
    · rw [quote]
      rfl
    · rw [newline]
      rfl
    · rw [carriage]
      rfl
  marked := rfl

/-- The four replacements, one after another, are one substitution of characters. -/
theorem toList_escape (s : String) : (escape s).toList = LabelEscape.escape s.toList := by
  simp only [escape, replace, String.toList_ofList, List.flatMap_assoc]
  refine congrArg (List.flatMap · s.toList) (funext fun c => ?_)
  by_cases slash : c = '\\'
  · rw [slash]
    rfl
  by_cases quote : c = '\x22'
  · rw [quote]
    rfl
  by_cases newline : c = '\n'
  · rw [newline]
    rfl
  by_cases carriage : c = '\r'
  · rw [carriage]
    rfl
  simp [Escape.encode, LabelEscape, slash, quote, newline, carriage]

/-- Text without anything to escape. -/
def Plain (s : String) : Prop :=
  ∀ c ∈ s.toList, LabelEscape.letter c = none

namespace Plain

/-- It goes through the text, not through all characters. -/
instance (s : String) : Decidable (Plain s) :=
  List.decidableBAll (fun c => LabelEscape.letter c = none) s.toList

@[simp] theorem append_iff {a b : String} : Plain (a ++ b) ↔ Plain a ∧ Plain b := by
  simp only [Plain, String.toList_append, List.forall_mem_append]

/-- Spelled out, so that the kernel does not decode the string. -/
theorem of_spelling {s : String} {text : List Char} (spelled : s = String.ofList text)
    (plain : text.all (LabelEscape.letter · = none) = true) : Plain s := by
  have each := List.all_eq_true.mp plain
  rw [spelled, Plain, String.toList_ofList]
  exact fun c member => of_decide_eq_true (each c member)

theorem of_digits {s : String} (digits : ∀ c ∈ s.toList, c.isDigit = true ∨ c = '.') : Plain s := by
  intro c member
  have special : ∀ d ∈ ['\\', '\x22', '\n', '\r'], c ≠ d := by
    rintro d listed rfl
    have digit := digits c member
    simp only [List.mem_cons, List.not_mem_nil, or_false] at listed
    rcases listed with rfl | rfl | rfl | rfl <;> exact absurd digit (by decide)
  simp only [List.forall_mem_cons, List.not_mem_nil] at special
  obtain ⟨slash, quote, newline, carriage, _⟩ := special
  simp only [LabelEscape, if_neg slash, if_neg quote, if_neg newline, if_neg carriage]

theorem repr (n : Nat) : Plain (Nat.repr n) :=
  of_digits fun c member => Or.inl (Binary64.isDigit_toDigits n c (by simpa [Nat.repr] using member))

theorem fixed (places : Nat) (x : Binary64) : Plain (Binary64.fixed places x) :=
  of_digits (Binary64.fixed_chars places x)

theorem hexUpper (b : UInt8) : Plain (OpenRazer.hexUpper 2 b.toNat) := by
  have each : ∀ n < 256, ((List.replicate (2 - (Nat.toDigits 16 n).length) '0' ++ Nat.toDigits 16 n).map Char.toUpper).all
      (LabelEscape.letter · = none) := by decide +kernel
  have digits := List.all_eq_true.mp (each b.toNat b.toNat_lt)
  simp only [Plain, OpenRazer.hexUpper, hex, String.toList_ofList]
  exact fun c member => of_decide_eq_true (digits c member)

variable {s : String}

theorem ne (plain : Plain s) {d : Char} (special : (LabelEscape.letter d).isSome) : ∀ c ∈ s.toList, c ≠ d := by
  rintro c member rfl
  rw [plain c member] at special
  cases special

theorem unquoted (plain : Plain s) : ∀ c ∈ s.toList, c ≠ '\x22' ∧ c ≠ LabelEscape.mark := by
  intro c member
  exact ⟨plain.ne rfl c member, plain.ne rfl c member⟩

theorem one_line (plain : Plain s) : '\n' ∉ s.toList := by
  intro member
  exact plain.ne (d := '\n') rfl _ member rfl

/-- Nothing in it is touched by escaping it. -/
theorem escape (plain : Plain s) : OpenRazer.escape s = s := by
  rw [← String.toList_inj, toList_escape, Escape.escape]
  refine (List.flatMap_congr fun c member => ?_).trans (List.flatMap_singleton' s.toList)
  rw [Escape.encode, plain c member]

end Plain

theorem newline_not_mem_escape (s : String) : '\n' ∉ (escape s).toList := by
  rw [toList_escape]
  refine Escape.not_mem_escape rfl (by decide) (fun d => ?_) s.toList
  simp only [LabelEscape]
  split_ifs <;> decide

/-- A sample: the name of a metric, its labels with the values they stand for, and a number. -/
structure Sample where
  name : String
  labels : List (String × String)
  value : String
deriving DecidableEq

namespace Sample

def pair (label : String × String) : String :=
  label.1 ++ "=\x22" ++ escape label.2 ++ "\x22"

/-- The labels behind the first. -/
def more (labels : List (String × String)) : String :=
  String.join (labels.map fun label => "," ++ pair label)

def braces : List (String × String) → String
  | [] => ""
  | first :: rest => "\x7b" ++ pair first ++ more rest ++ "\x7d"

/-- The line of a sample. -/
def text (s : Sample) : String :=
  s.name ++ braces s.labels ++ " " ++ s.value

/-- The label values of a line: what it has between quotes that are not escaped, with the escapes undone. -/
def labelValues (line : String) : List String :=
  (LabelEscape.quoted '\x22' line.toList).map String.ofList

/-- But for its label values a sample has nothing that needs an escape. -/
structure WellFormed (s : Sample) : Prop where
  name : Plain s.name
  labels : ∀ label ∈ s.labels, Plain label.1
  value : Plain s.value

theorem labelValues_plain {line : String} (plain : Plain line) : labelValues line = [] := by
  rw [labelValues, Escape.quoted_plain plain.unquoted, List.map_nil]

theorem labelValues_pair {front : String} {label : String × String} (named : Plain (front ++ label.1 ++ "=")) (rest : String) :
    labelValues (front ++ pair label ++ rest) = label.2 :: labelValues rest := by
  have cut := Escape.quoted_append (T := LabelEscape) rfl (by decide) named.unquoted label.2.toList rest.toList
  have parts : (front ++ pair label ++ rest).toList = (front ++ label.1 ++ "=").toList ++
      '\x22' :: (LabelEscape.escape label.2.toList ++ '\x22' :: rest.toList) := by
    simp [pair, toList_escape]
  rw [labelValues, parts, cut, List.map_cons, String.ofList_toList, labelValues]

theorem labelValues_more {labels : List (String × String)} (named : ∀ label ∈ labels, Plain label.1) (rest : String) :
    labelValues (more labels ++ rest) = labels.map Prod.snd ++ labelValues rest := by
  induction labels with
  | nil => rw [more, List.map_nil, String.join_nil, String.empty_append, List.map_nil, List.nil_append]
  | cons label labels ih =>
    have here : Plain ("," ++ label.1 ++ "=") := by
      rw [Plain.append_iff, Plain.append_iff]
      exact ⟨⟨by decide, named label List.mem_cons_self⟩, by decide⟩
    rw [more, List.map_cons, String.join_cons, String.append_assoc, labelValues_pair here, ← more,
      ih fun other member => named other (List.mem_cons_of_mem _ member), List.map_cons, List.cons_append]

/-- Reading a sample's line gives back its label values, whatever they say. -/
theorem labelValues_text {s : Sample} (formed : s.WellFormed) : labelValues s.text = s.labels.map Prod.snd := by
  obtain ⟨name, labels, value⟩ := s
  cases labels with
  | nil =>
    refine labelValues_plain ?_
    simp only [text, braces, Plain.append_iff]
    exact ⟨⟨⟨formed.name, by decide⟩, by decide⟩, formed.value⟩
  | cons first rest =>
    have parts : text ⟨name, first :: rest, value⟩ = name ++ "\x7b" ++ pair first ++ (more rest ++ ("\x7d " ++ value)) := by
      simp [← String.toList_inj, text, braces]
    have front : Plain (name ++ "\x7b" ++ first.1 ++ "=") := by
      simp only [Plain.append_iff]
      exact ⟨⟨⟨formed.name, by decide⟩, formed.labels first List.mem_cons_self⟩, by decide⟩
    have back : Plain ("\x7d " ++ value) := Plain.append_iff.mpr ⟨by decide, formed.value⟩
    have others := labelValues_more (fun label member => formed.labels label (List.mem_cons_of_mem _ member)) ("\x7d " ++ value)
    rw [parts, labelValues_pair front, others, labelValues_plain back, List.append_nil, List.map_cons]

theorem pair_one_line {label : String × String} (named : Plain label.1) : '\n' ∉ (pair label).toList := by
  simp only [pair, String.toList_append, List.mem_append, not_or]
  exact ⟨⟨⟨named.one_line, by decide⟩, newline_not_mem_escape label.2⟩, by decide⟩

theorem text_one_line {s : Sample} (formed : s.WellFormed) : '\n' ∉ s.text.toList := by
  have labels : '\n' ∉ (braces s.labels).toList := by
    cases all : s.labels with
    | nil => decide
    | cons first rest =>
      have named := formed.labels
      rw [all, List.forall_mem_cons] at named
      have others : '\n' ∉ (more rest).toList := by
        intro member
        rw [more, String.toList_join, List.flatMap_map] at member
        obtain ⟨label, listed, inside⟩ := List.mem_flatMap.mp member
        rw [String.toList_append, List.mem_append] at inside
        exact inside.elim (by decide) (pair_one_line (named.2 label listed))
      simp only [braces, String.toList_append, List.mem_append, not_or]
      exact ⟨⟨⟨by decide, pair_one_line named.1⟩, others⟩, by decide⟩
  simp only [text, String.toList_append, List.mem_append, not_or]
  exact ⟨⟨⟨formed.name.one_line, labels⟩, by decide⟩, formed.value.one_line⟩

end Sample

end OpenRazer
