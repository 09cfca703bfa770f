import MailRelay.SortedMap
import Mathlib.Data.List.Basic
import Mathlib.Data.List.Nodup

set_option autoImplicit false

namespace MailRelay.SortedMap

variable {κ ν : Type} [Ord κ]

@[simp] theorem get?_empty (key : κ) : (empty : SortedMap κ ν).get? key = none := rfl

variable [Std.LawfulEqOrd κ]

theorem lookup_eq_some_iff (key : κ) (value : ν) {es : List (κ × ν)}
    (sorted : es.Pairwise fun a b => compare a.1 b.1 = .lt) :
    lookup key es = some value ↔ (key, value) ∈ es := by
  induction es with
  | nil => simp [lookup]
  | cons first rest ih =>
    obtain ⟨k, v⟩ := first
    obtain ⟨least, tail⟩ := List.pairwise_cons.1 sorted
    simp only [lookup]
    by_cases same : key = k
    · subst same
      have absent : (key, value) ∉ rest := by
        intro member
        have smaller := least _ member
        simp at smaller
      simp [absent, eq_comm]
    · simp [same, ih tail]

theorem get?_eq_some_iff {m : SortedMap κ ν} {key : κ} {value : ν} :
    m.get? key = some value ↔ (key, value) ∈ m.entries :=
  lookup_eq_some_iff key value m.sorted

theorem nodup_keys (m : SortedMap κ ν) : m.keys.Nodup := by
  refine List.pairwise_map.2 (m.sorted.imp ?_)
  intro a b smaller same
  simp [same] at smaller

theorem mem_keys_iff {m : SortedMap κ ν} {key : κ} :
    key ∈ m.keys ↔ ∃ value, m.get? key = some value := by
  simp [keys, get?_eq_some_iff]

theorem get?_filter (keep : κ → ν → Bool) (m : SortedMap κ ν) (key : κ) :
    (m.filter keep).get? key = (m.get? key).filter (keep key) := by
  apply Option.ext
  intro value
  rw [get?_eq_some_iff, Option.filter_eq_some_iff, get?_eq_some_iff, filter, List.mem_filter]

def mapValues (change : κ → ν → ν) (m : SortedMap κ ν) : SortedMap κ ν :=
  ⟨m.entries.map fun e => (e.1, change e.1 e.2), List.pairwise_map.2 m.sorted⟩

omit [Std.LawfulEqOrd κ] in
@[simp] theorem size_mapValues (change : κ → ν → ν) (m : SortedMap κ ν) :
    (m.mapValues change).size = m.size :=
  List.length_map _

@[simp] theorem get?_mapValues (change : κ → ν → ν) (m : SortedMap κ ν) (key : κ) :
    (m.mapValues change).get? key = (m.get? key).map (change key) := by
  obtain ⟨es, sorted⟩ := m
  simp only [get?, mapValues]
  clear sorted
  induction es with
  | nil => rfl
  | cons first rest ih =>
    obtain ⟨k, v⟩ := first
    simp only [List.map_cons, lookup, ih]
    split
    · next same =>
      rw [Std.LawfulEqCmp.eq_of_compare same]
      rfl
    · rfl

theorem get?_erase (m : SortedMap κ ν) (key other : κ) [DecidableEq κ] :
    (m.erase key).get? other = if other = key then none else m.get? other := by
  by_cases same : other = key
  · rw [same, get?_erase_self, if_pos rfl]
  · rw [get?_erase_of_ne m same, if_neg same]

variable [Std.TransOrd κ]

theorem ext_of_get? {m n : SortedMap κ ν} (same : ∀ key, m.get? key = n.get? key) : m = n := by
  have members (e : κ × ν) : e ∈ m.entries ↔ e ∈ n.entries := by
    rw [← get?_eq_some_iff, ← get?_eq_some_iff, same]
  have perm : m.entries.Perm n.entries :=
    (List.perm_ext_iff_of_nodup m.nodup_keys.of_map n.nodup_keys.of_map).2 members
  have listed : m.entries = n.entries := by
    refine perm.eq_of_pairwise (fun a b _ _ smaller larger => ?_) m.sorted n.sorted
    have back := Std.OrientedCmp.gt_of_lt smaller
    rw [larger] at back
    cases back
  cases m
  cases listed
  rfl

theorem get?_insert (m : SortedMap κ ν) (key other : κ) (value : ν) [DecidableEq κ] :
    (m.insert key value).get? other = if other = key then some value else m.get? other := by
  by_cases same : other = key
  · rw [same, get?_insert_self, if_pos rfl]
  · rw [get?_insert_of_ne m same, if_neg same]

theorem mem_insert_iff {m : SortedMap κ ν} {key : κ} {value : ν} (absent : m.get? key = none)
    {entry : κ × ν} :
    entry ∈ (m.insert key value).entries ↔ entry = (key, value) ∨ entry ∈ m.entries := by
  classical
  obtain ⟨other, held⟩ := entry
  rw [← get?_eq_some_iff, ← get?_eq_some_iff, get?_insert]
  by_cases same : other = key
  · subst same
    simp [absent, eq_comm]
  · simp [same]

-- The first entry with a property is the one with the least key.
theorem find?_entries_iff {m : SortedMap κ ν} {p : κ × ν → Bool} {key : κ} {value : ν} :
    m.entries.find? p = some (key, value) ↔ m.get? key = some value ∧ p (key, value) = true ∧
      ∀ other held, m.get? other = some held → p (other, held) = true →
        compare other key ≠ .lt := by
  have least {key : κ} {value : ν} (found : m.entries.find? p = some (key, value)) :
      m.get? key = some value ∧ p (key, value) = true ∧
        ∀ other held, m.get? other = some held → p (other, held) = true →
          compare other key ≠ .lt := by
    obtain ⟨holds, before, after, parts, none⟩ := List.find?_eq_some_iff_append.1 found
    refine ⟨get?_eq_some_iff.2 (by simp [parts]), holds, fun other held stored fits => ?_⟩
    have sorted := m.sorted
    rw [parts] at sorted
    have member := get?_eq_some_iff.1 stored
    rw [parts, List.mem_append, List.mem_cons] at member
    rcases member with early | same | later
    · simpa [fits] using none _ early
    · cases same
      simp
    · have smaller := List.rel_of_pairwise_cons (List.pairwise_append.1 sorted).2.1 later
      simp [Std.OrientedCmp.gt_of_lt smaller]
  refine ⟨least, fun ⟨stored, holds, first⟩ => ?_⟩
  cases found : m.entries.find? p with
  | none => exact absurd holds (List.find?_eq_none.1 found _ (get?_eq_some_iff.1 stored))
  | some entry =>
    obtain ⟨other, held⟩ := entry
    obtain ⟨stored', holds', first'⟩ := least found
    have above := first other held stored' holds'
    have below := first' key value stored holds
    have same : compare other key = .eq := by
      cases order : compare other key with
      | lt => exact absurd order above
      | eq => rfl
      | gt => exact absurd (Std.OrientedCmp.lt_of_gt order) below
    obtain rfl := Std.LawfulEqCmp.eq_of_compare same
    rw [stored] at stored'
    cases stored'
    rfl

omit [Std.TransOrd κ] [Std.LawfulEqOrd κ] in
theorem length_insertEntry {key : κ} (value : ν) {es : List (κ × ν)} (absent : lookup key es = none) :
    (insertEntry key value es).length = es.length + 1 := by
  induction es with
  | nil => rfl
  | cons first rest ih =>
    obtain ⟨k, v⟩ := first
    rw [lookup] at absent
    split at absent
    · cases absent
    · next differs =>
      rw [insertEntry]
      split
      · rfl
      · next same => exact absurd same differs
      · rw [List.length_cons, ih absent, List.length_cons]

theorem size_insert {m : SortedMap κ ν} {key : κ} (value : ν) (absent : m.get? key = none) :
    (m.insert key value).size = m.size + 1 :=
  length_insertEntry value absent

omit [Std.LawfulEqOrd κ] in
theorem insertEntry_above (key : κ) (value : ν) (es : List (κ × ν))
    (above : ∀ e ∈ es, compare e.1 key = .lt) :
    insertEntry key value es = es ++ [(key, value)] := by
  induction es with
  | nil => rfl
  | cons first rest ih =>
    obtain ⟨k, v⟩ := first
    have larger : compare key k = .gt := Std.OrientedCmp.gt_of_lt (above (k, v) (by simp))
    rw [insertEntry, larger, ih fun e member => above e (List.mem_cons_of_mem _ member)]
    rfl

theorem values_insert_above (m : SortedMap κ ν) (key : κ) (value : ν)
    (above : ∀ k ∈ m.keys, compare k key = .lt) :
    (m.insert key value).values = m.values ++ [value] := by
  have entries := insertEntry_above key value m.entries fun e member =>
    above e.1 (List.mem_map_of_mem member)
  simp [values, insert, entries]

theorem entries_foldl_insert {front back : List (κ × ν)} {m : SortedMap κ ν}
    (held : m.entries = front)
    (sorted : (front ++ back).Pairwise fun a b => compare a.1 b.1 = .lt) :
    (back.foldl (fun m e => m.insert e.1 e.2) m).entries = front ++ back := by
  induction back generalizing front m with
  | nil => simpa using held
  | cons e rest ih =>
    obtain ⟨-, -, between⟩ := List.pairwise_append.1 sorted
    have above : ∀ other ∈ m.entries, compare other.1 e.1 = .lt := by
      intro other member
      rw [held] at member
      exact between other member e List.mem_cons_self
    have next : (m.insert e.1 e.2).entries = front ++ [e] := by
      rw [← held]
      exact insertEntry_above e.1 e.2 m.entries above
    simpa using ih next (by simpa using sorted)

theorem ofList_entries (m : SortedMap κ ν) : ofList m.entries = m := by
  have listed : (ofList m.entries).entries = m.entries :=
    entries_foldl_insert rfl m.sorted
  apply ext_of_get?
  intro key
  rw [get?, get?, listed]

end MailRelay.SortedMap
