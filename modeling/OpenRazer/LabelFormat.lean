import OpenRazer.Sample

namespace OpenRazer

/-- The escapes that the exposition format has: backslash, double quote and newline. -/
def FormatEscape : Escape Char where
  mark := '\\'
  letter c :=
    if c = '\\' then some '\\' else if c = '\x22' then some '\x22' else if c = '\n' then some 'n' else none
  meaning l := if l = 'n' then '\n' else l
  meaning_letter {c l} special := by
    split_ifs at special with slash quote newline
    all_goals cases special
    · rw [slash]
      rfl
    · rw [quote]
      rfl
    · rw [newline]
      rfl
  marked := rfl

/-- What a label value stands for, if it is one that the format allows. -/
def labelValue? (text : String) : Option String :=
  (FormatEscape.decode false text.toList).map String.ofList

theorem letter_eq (c : Char) : LabelEscape.letter c = if c = '\r' then some 'r' else FormatEscape.letter c := by
  by_cases carriage : c = '\r'
  · rw [carriage]
    rfl
  · simp only [LabelEscape, FormatEscape, if_neg carriage]

theorem letter_ne (d : Char) : FormatEscape.letter d ≠ some 'r' := by
  simp only [FormatEscape]
  split_ifs <;> decide

/-- `escape` has one escape more than the format. -/
theorem labelEscape_extends : LabelEscape.Extends FormatEscape where
  mark := rfl
  letter {c l} known := by
    have other : c ≠ '\r' := by
      rintro rfl
      cases known
    rw [letter_eq, if_neg other, known]
  fresh {c l d} letter plain := by
    rw [letter_eq, plain] at letter
    split at letter
    · obtain rfl := Option.some.inj letter
      exact letter_ne d
    · cases letter

theorem same_letter_iff {c : Char} : LabelEscape.letter c = FormatEscape.letter c ↔ c ≠ '\r' := by
  rw [letter_eq]
  constructor
  · rintro same rfl
    cases same
  · exact fun other => if_neg other

/-- A reader of the format gets a string back exactly when it has no carriage
return; one that also knows the escape for that gets back every string. -/
theorem labelValue?_escape (s : String) :
    labelValue? (escape s) = (if '\r' ∈ s.toList then none else some s) ∧
      LabelEscape.decode false (escape s).toList = some s.toList := by
  rw [labelValue?, toList_escape]
  refine ⟨?_, Escape.decode_escape_self s.toList⟩
  have plain : (∀ c ∈ s.toList, LabelEscape.letter c = FormatEscape.letter c) ↔ '\r' ∉ s.toList := by
    simp only [same_letter_iff]
    constructor
    · exact fun each member => each _ member rfl
    · rintro absent c member rfl
      exact absent member
  rw [Escape.decode_escape labelEscape_extends]
  by_cases carriage : '\r' ∈ s.toList
  · rw [if_pos carriage, if_neg (mt plain.mp (not_not.mpr carriage)), Option.map_none]
  · rw [if_neg carriage, if_pos (plain.mpr carriage), Option.map_some, String.ofList_toList]

theorem carriage_return_is_no_label_value : labelValue? (escape "\r") = none := by
  decide

end OpenRazer
