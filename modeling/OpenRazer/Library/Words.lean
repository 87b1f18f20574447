import Mathlib.Data.List.DropRight

/-! White space in text: `char::is_whitespace`, `str::trim` and `str::split_whitespace`. -/

namespace Words

/-- The characters with the property `White_Space`. -/
def isSpace (c : Char) : Bool :=
  let n := c.toNat
  (0x09 ≤ n && n ≤ 0x0D) || n == 0x20 || n == 0x85 || n == 0xA0 || n == 0x1680 || (0x2000 ≤ n && n ≤ 0x200A) ||
    n == 0x2028 || n == 0x2029 || n == 0x202F || n == 0x205F || n == 0x3000

def trim (text : List Char) : List Char :=
  (text.dropWhile isSpace).rdropWhile isSpace

/-- The parts between runs of white space. -/
def words (text : List Char) : List (List Char) :=
  (text.splitOnP isSpace).filter (· ≠ [])

/-- White space in front and behind is all that is taken off. -/
theorem trim_padded {text front back : List Char} (some : text ≠ []) (none : ∀ c ∈ text, isSpace c = false)
    (leading : ∀ c ∈ front, isSpace c = true) (trailing : ∀ c ∈ back, isSpace c = true) :
    trim (front ++ text ++ back) = text := by
  obtain ⟨first, rest, rfl⟩ := List.exists_cons_of_ne_nil some
  have here := none first (List.mem_cons_self ..)
  have dropped : (front ++ (first :: rest) ++ back).dropWhile isSpace = first :: rest ++ back := by
    rw [List.append_assoc, List.dropWhile_append_of_pos leading, List.cons_append,
      List.dropWhile_cons_of_neg (by simp [here])]
  have cut (spaces : List Char) : (∀ c ∈ spaces, isSpace c = true) →
      (first :: rest ++ spaces).rdropWhile isSpace = first :: rest := by
    intro blank
    induction spaces using List.reverseRecOn with
    | nil =>
      rw [List.append_nil, List.rdropWhile_eq_self_iff]
      intro _
      simp [none _ (List.getLast_mem _)]
    | append_singleton spaces last ih =>
      rw [← List.append_assoc, List.rdropWhile_concat_pos _ _ _ (blank last (by simp))]
      exact ih fun c member => blank c (List.mem_append_left _ member)
  rw [trim, dropped]
  exact cut back trailing

theorem words_cons {c : Char} (space : isSpace c = true) (rest : List Char) : words (c :: rest) = words rest := by
  have split := List.splitOnP_append_cons [] rest space
  rw [List.nil_append, List.splitOnP_nil] at split
  rw [words, split]
  simp [words]

theorem words_blank {blank : List Char} (spaces : ∀ c ∈ blank, isSpace c = true) (rest : List Char) :
    words (blank ++ rest) = words rest := by
  induction blank with
  | nil => rfl
  | cons c blank ih =>
    obtain ⟨here, later⟩ := List.forall_mem_cons.mp spaces
    rw [List.cons_append, words_cons here, ih later]

/-- One word, for there is no white space in it. -/
def Word (part : List Char) : Prop :=
  part ≠ [] ∧ ∀ c ∈ part, isSpace c = false

theorem Word.of_all {part : List Char} (some : part ≠ []) (plain : part.all (!isSpace ·) = true) : Word part := by
  refine ⟨some, fun c member => ?_⟩
  have here := List.all_eq_true.mp plain c member
  rwa [Bool.not_eq_true'] at here

/-- A word ends at the first white space. -/
theorem Word.words_append {part blank : List Char} (word : Word part) (some : blank ≠ []) (spaces : ∀ c ∈ blank, isSpace c = true)
    (rest : List Char) : words (part ++ (blank ++ rest)) = part :: words rest := by
  obtain ⟨c, blank, rfl⟩ := List.exists_cons_of_ne_nil some
  obtain ⟨here, later⟩ := List.forall_mem_cons.mp spaces
  have split := List.splitOnP_append_cons_of_forall_mem word.2 c here (blank ++ rest)
  have kept : words (part ++ c :: (blank ++ rest)) = part :: words (blank ++ rest) := by
    rw [words, split]
    simp [words, word.1]
  rw [List.cons_append, kept, words_blank later]

end Words
