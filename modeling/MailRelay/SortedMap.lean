set_option autoImplicit false

namespace MailRelay

structure SortedMap (κ ν : Type) [Ord κ] where
  entries : List (κ × ν)
  sorted : entries.Pairwise fun a b => compare a.1 b.1 = .lt
  deriving DecidableEq

namespace SortedMap

variable {κ ν : Type} [Ord κ]

def empty : SortedMap κ ν := ⟨[], .nil⟩

def size (m : SortedMap κ ν) : Nat := m.entries.length

def keys (m : SortedMap κ ν) : List κ := m.entries.map (·.1)

def values (m : SortedMap κ ν) : List ν := m.entries.map (·.2)

def lookup (key : κ) : List (κ × ν) → Option ν
  | [] => none
  | (k, v) :: rest => if compare key k = .eq then some v else lookup key rest

def get? (m : SortedMap κ ν) (key : κ) : Option ν := lookup key m.entries

def contains (m : SortedMap κ ν) (key : κ) : Bool := (m.get? key).isSome

def insertEntry (key : κ) (value : ν) : List (κ × ν) → List (κ × ν)
  | [] => [(key, value)]
  | (k, v) :: rest =>
    match compare key k with
    | .lt => (key, value) :: (k, v) :: rest
    | .eq => (key, value) :: rest
    | .gt => (k, v) :: insertEntry key value rest

theorem mem_insertEntry {key : κ} {value : ν} {es : List (κ × ν)} {e : κ × ν}
    (h : e ∈ insertEntry key value es) : e = (key, value) ∨ e ∈ es := by
  induction es with
  | nil => simpa [insertEntry] using h
  | cons first rest ih =>
    obtain ⟨k, v⟩ := first
    simp only [insertEntry] at h
    split at h
    · simpa using h
    · rcases List.mem_cons.1 h with h | h
      · exact .inl h
      · exact .inr (List.mem_cons_of_mem _ h)
    · rcases List.mem_cons.1 h with h | h
      · exact .inr (h ▸ List.mem_cons_self)
      · exact (ih h).imp_right (List.mem_cons_of_mem _)

variable [Std.TransOrd κ] [Std.LawfulEqOrd κ]

theorem sorted_insertEntry (key : κ) (value : ν) {es : List (κ × ν)}
    (h : es.Pairwise fun a b => compare a.1 b.1 = .lt) :
    (insertEntry key value es).Pairwise fun a b => compare a.1 b.1 = .lt := by
  induction es with
  | nil => simp [insertEntry]
  | cons first rest ih =>
    obtain ⟨k, v⟩ := first
    obtain ⟨least, tail⟩ := List.pairwise_cons.1 h
    simp only [insertEntry]
    split
    · next smaller =>
      refine List.pairwise_cons.2 ⟨fun e he => ?_, h⟩
      rcases List.mem_cons.1 he with rfl | he
      · exact smaller
      · exact Std.TransCmp.lt_trans smaller (least e he)
    · next same =>
      cases Std.LawfulEqCmp.eq_of_compare same
      exact List.pairwise_cons.2 ⟨least, tail⟩
    · next larger =>
      refine List.pairwise_cons.2 ⟨fun e he => ?_, ih tail⟩
      rcases mem_insertEntry he with rfl | he
      · exact Std.OrientedCmp.lt_of_gt larger
      · exact least e he

def insert (m : SortedMap κ ν) (key : κ) (value : ν) : SortedMap κ ν :=
  ⟨insertEntry key value m.entries, sorted_insertEntry key value m.sorted⟩

omit [Std.TransOrd κ] [Std.LawfulEqOrd κ] in
theorem sorted_filter (keep : κ × ν → Bool) {es : List (κ × ν)}
    (h : es.Pairwise fun a b => compare a.1 b.1 = .lt) :
    (es.filter keep).Pairwise fun a b => compare a.1 b.1 = .lt :=
  h.sublist List.filter_sublist

omit [Std.TransOrd κ] [Std.LawfulEqOrd κ] in
def filter (keep : κ → ν → Bool) (m : SortedMap κ ν) : SortedMap κ ν :=
  ⟨m.entries.filter fun e => keep e.1 e.2, sorted_filter _ m.sorted⟩

omit [Std.TransOrd κ] [Std.LawfulEqOrd κ] in
def erase (m : SortedMap κ ν) (key : κ) : SortedMap κ ν :=
  m.filter fun k _ => compare key k != .eq

-- A later entry replaces an earlier one with the same key.
def ofList (entries : List (κ × ν)) : SortedMap κ ν :=
  entries.foldl (fun m e => m.insert e.1 e.2) empty

omit [Std.TransOrd κ] in
theorem lookup_insertEntry_self (key : κ) (value : ν) (es : List (κ × ν)) :
    lookup key (insertEntry key value es) = some value := by
  induction es with
  | nil => simp [insertEntry, lookup]
  | cons first rest ih =>
    obtain ⟨k, v⟩ := first
    simp only [insertEntry]
    split <;> simp_all [lookup]

omit [Std.TransOrd κ] in
theorem lookup_insertEntry_of_ne {key other : κ} (ne : other ≠ key) (value : ν)
    (es : List (κ × ν)) : lookup other (insertEntry key value es) = lookup other es := by
  induction es with
  | nil => simp [insertEntry, lookup, ne]
  | cons first rest ih =>
    obtain ⟨k, v⟩ := first
    simp only [insertEntry]
    split <;> simp_all [lookup]

theorem get?_insert_self (m : SortedMap κ ν) (key : κ) (value : ν) :
    (m.insert key value).get? key = some value :=
  lookup_insertEntry_self key value m.entries

theorem get?_insert_of_ne (m : SortedMap κ ν) {key other : κ} (ne : other ≠ key) (value : ν) :
    (m.insert key value).get? other = m.get? other :=
  lookup_insertEntry_of_ne ne value m.entries

omit [Std.TransOrd κ] in
theorem get?_erase_self (m : SortedMap κ ν) (key : κ) : (m.erase key).get? key = none := by
  obtain ⟨es, sorted⟩ := m
  simp only [get?, erase, filter]
  clear sorted
  induction es with
  | nil => rfl
  | cons first rest ih => by_cases h : key = first.1 <;> simp_all [lookup]

omit [Std.TransOrd κ] in
theorem get?_erase_of_ne (m : SortedMap κ ν) {key other : κ} (ne : other ≠ key) :
    (m.erase key).get? other = m.get? other := by
  obtain ⟨es, sorted⟩ := m
  simp only [get?, erase, filter]
  clear sorted
  induction es with
  | nil => rfl
  | cons first rest ih =>
    by_cases h : key = first.1
    · subst h
      simp_all [lookup]
    · simp_all [lookup]

end SortedMap

end MailRelay
