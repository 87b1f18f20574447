import Mathlib.Algebra.BigOperators.Group.List.Lemmas
import Mathlib.Algebra.GroupWithZero.Nat
import Mathlib.Tactic.Common

/-! Maps that keep a summary of a history, one entry for each key. -/

namespace Groups

variable {T κ β : Type*} [DecidableEq κ]

/-- The part of a history that belongs to a key. -/
def filed (keyOf : T → Option κ) (key : κ) (history : List T) : List T :=
  history.filter fun t => keyOf t = some key

section

variable {keyOf : T → Option κ} {key : κ} {history other : List T} {t : T}

theorem filed_append_self (own : keyOf t = some key) :
    filed keyOf key (history ++ [t]) = filed keyOf key history ++ [t] := by
  simp only [filed, List.filter_append, List.filter_singleton, own, decide_true, cond_true]

theorem filed_append_other (foreign : keyOf t ≠ some key) : filed keyOf key (history ++ [t]) = filed keyOf key history := by
  simp only [filed, List.filter_append, List.filter_singleton, foreign, decide_false, cond_false, List.append_nil]

theorem filed_append (history more : List T) :
    filed keyOf key (history ++ more) = filed keyOf key history ++ filed keyOf key more :=
  List.filter_append ..

theorem filed_perm (same : history.Perm other) : (filed keyOf key history).Perm (filed keyOf key other) :=
  same.filter _

theorem length_filed : (filed keyOf key history).length = (history.filterMap keyOf).count key := by
  rw [filed, ← List.countP_eq_length_filter, List.count_filterMap]
  exact List.countP_congr fun t _ => by simp

end

variable {cmp : κ → κ → Ordering} [Std.TransCmp cmp]

/-- An entry where something is filed, and no other. -/
def Summarizes (keyOf : T → Option κ) (summary : List T → β) (m : Std.ExtTreeMap κ β cmp) (history : List T) : Prop :=
  ∀ key, m[key]? = if filed keyOf key history = [] then none else some (summary (filed keyOf key history))

namespace Summarizes

variable {keyOf : T → Option κ} {summary : List T → β} {m : Std.ExtTreeMap κ β cmp} {history : List T} {t : T} {key : κ}

theorem empty : Summarizes keyOf summary (∅ : Std.ExtTreeMap κ β cmp) [] :=
  fun _ => Std.ExtTreeMap.getElem?_empty

/-- What an update reads: the summary of nothing where there is no entry. -/
theorem getD (same : Summarizes keyOf summary m history) (key : κ) :
    m[key]?.getD (summary []) = summary (filed keyOf key history) := by
  rw [same key]
  split
  · rename_i none
    rw [none]
    rfl
  · rfl

theorem skip (same : Summarizes keyOf summary m history) (keyless : keyOf t = none) :
    Summarizes keyOf summary m (history ++ [t]) := by
  intro key
  rw [filed_append_other (by rw [keyless]; exact (Option.some_ne_none key).symm)]
  exact same key

/-- Filing one more entry replaces the summary under its key. -/
theorem file {m' : Std.ExtTreeMap κ β cmp} (same : Summarizes keyOf summary m history) (own : keyOf t = some key)
    (stored : m'[key]? = some (summary (filed keyOf key history ++ [t]))) (others : ∀ k, k ≠ key → m'[k]? = m[k]?) :
    Summarizes keyOf summary m' (history ++ [t]) := by
  intro k
  by_cases here : k = key
  · subst here
    rw [filed_append_self own, if_neg (by simp), stored]
  · rw [filed_append_other (by rw [own]; simpa using Ne.symm here), others k here, same k]

theorem insert [Std.LawfulEqCmp cmp] {v : β} (same : Summarizes keyOf summary m history) (own : keyOf t = some key)
    (next : v = summary (filed keyOf key history ++ [t])) : Summarizes keyOf summary (m.insert key v) (history ++ [t]) := by
  have stored : (m.insert key v)[key]? = some (summary (filed keyOf key history ++ [t])) := by
    rw [Std.ExtTreeMap.getElem?_insert_self, next]
  have others : ∀ k, k ≠ key → (m.insert key v)[k]? = m[k]? := by
    intro k other
    have apart : cmp key k ≠ .eq := fun equal => other (Std.LawfulEqCmp.eq_of_compare equal).symm
    rw [Std.ExtTreeMap.getElem?_insert, if_neg apart]
  exact same.file own stored others

theorem alter [Std.LawfulEqCmp cmp] {f : Option β → Option β} (same : Summarizes keyOf summary m history)
    (own : keyOf t = some key) (next : f m[key]? = some (summary (filed keyOf key history ++ [t]))) :
    Summarizes keyOf summary (m.alter key f) (history ++ [t]) := by
  have stored : (m.alter key f)[key]? = some (summary (filed keyOf key history ++ [t])) := by
    rw [Std.ExtTreeMap.getElem?_alter_self, next]
  have others : ∀ k, k ≠ key → (m.alter key f)[k]? = m[k]? := by
    intro k other
    have apart : cmp key k ≠ .eq := fun equal => other (Std.LawfulEqCmp.eq_of_compare equal).symm
    rw [Std.ExtTreeMap.getElem?_alter, if_neg apart]
  exact same.file own stored others

theorem mem_iff (same : Summarizes keyOf summary m history) : key ∈ m ↔ filed keyOf key history ≠ [] := by
  rw [Std.ExtTreeMap.mem_iff_isSome_getElem?, same key]
  split <;> simp_all

theorem of_mem (same : Summarizes keyOf summary m history) {v : β} (entry : m[key]? = some v) :
    v = summary (filed keyOf key history) := by
  rw [same key] at entry
  split at entry
  · cases entry
  · exact (Option.some.inj entry).symm

/-- An entry stays, and what is filed later is added to what it summarizes. -/
theorem grows {m' : Std.ExtTreeMap κ β cmp} {more : List T} {v : β} (same : Summarizes keyOf summary m history)
    (same' : Summarizes keyOf summary m' (history ++ more)) (entry : m[key]? = some v) :
    m'[key]? = some (summary (filed keyOf key history ++ filed keyOf key more)) := by
  have filled : filed keyOf key history ≠ [] := by
    intro none
    rw [same key, if_pos none] at entry
    cases entry
  rw [same' key, filed_append, if_neg (by simp [filled])]

/-- What does not see the order of a history is the same for every order. -/
theorem perm {m' : Std.ExtTreeMap κ β cmp} {other : List T} {γ : Type*} (view : β → γ)
    (same : Summarizes keyOf summary m history) (same' : Summarizes keyOf summary m' other) (reordered : other.Perm history)
    (orderless : ∀ {a b : List T}, a.Perm b → view (summary a) = view (summary b)) (key : κ) :
    m'[key]?.map view = m[key]?.map view := by
  have parts : (filed keyOf key other).Perm (filed keyOf key history) := filed_perm reordered
  rw [same key, same' key]
  by_cases none : filed keyOf key history = []
  · have none' : filed keyOf key other = [] := (none ▸ parts).eq_nil
    rw [if_pos none, if_pos none']
  · have some' : filed keyOf key other ≠ [] := fun nil => none (nil ▸ parts).symm.eq_nil
    rw [if_neg none, if_neg some', Option.map_some, Option.map_some, orderless parts]

variable [Std.LawfulEqCmp cmp]

theorem eq_of_perm {m' : Std.ExtTreeMap κ β cmp} {other : List T} (same : Summarizes keyOf summary m history)
    (same' : Summarizes keyOf summary m' other) (reordered : other.Perm history)
    (orderless : ∀ {a b : List T}, a.Perm b → summary a = summary b) : m' = m := by
  refine Std.ExtTreeMap.ext_getElem? fun key => ?_
  have entry := perm id same same' reordered orderless key
  rwa [Option.map_id, id, id] at entry

/-- The keys of the map are the keys of the history. -/
theorem keys_perm (same : Summarizes keyOf summary m history) : m.keys.Perm (history.filterMap keyOf).dedup := by
  rw [List.perm_ext_iff_of_nodup m.nodup_keys (List.nodup_dedup _)]
  intro key
  rw [Std.ExtTreeMap.mem_keys, same.mem_iff, List.mem_dedup, ← List.count_pos_iff, ← length_filed, List.length_pos_iff]

/-- Where every entry counts what is filed under it, the entries of some keys add up to what is filed under them. -/
theorem sum_counts {size : β → Nat} (same : Summarizes keyOf summary m history)
    (counts : ∀ key v, m[key]? = some v → size v = (filed keyOf key history).length) (p : κ → Bool) :
    ((m.toList.filter fun entry => p entry.1).map fun entry => size entry.2).sum = (history.filterMap keyOf).countP p := by
  have each : (m.toList.filter fun entry => p entry.1).map (fun entry => size entry.2) =
      (m.keys.filter p).map fun key => (history.filterMap keyOf).count key := by
    rw [← Std.ExtTreeMap.map_fst_toList_eq_keys, List.filter_map, List.map_map]
    refine List.map_congr_left fun entry member => ?_
    have stored := Std.ExtTreeMap.mem_toList_iff_getElem?_eq_some.mp (List.mem_of_mem_filter member)
    rw [counts entry.1 entry.2 stored, length_filed]
    rfl
  have keys := (same.keys_perm.filter p).map fun key => (history.filterMap keyOf).count key
  rw [each, keys.sum_eq, List.sum_map_count_dedup_filter_eq_countP]

end Summarizes

end Groups
