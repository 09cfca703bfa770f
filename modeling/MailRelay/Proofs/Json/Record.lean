import MailRelay.Json.Basic

set_option autoImplicit false

namespace MailRelay.Json

def member? (j : Json) (name : String) : Option Json :=
  match j with
  | object members => (members.find? (·.1 == name)).map (·.2)
  | _ => none

theorem fields?_object (names : List String) (members : List (String × Json)) :
    (object members).fields? names = some (names.map fun name => (object members).member? name) :=
  rfl

theorem member?_nil (name : String) : (object []).member? name = none :=
  rfl

theorem member?_cons (name key : String) (value : Json) (members : List (String × Json)) :
    (object ((key, value) :: members)).member? name =
      if key = name then some value else (object members).member? name := by
  by_cases same : key = name <;> simp [member?, same]

theorem member?_append (name : String) (front back : List (String × Json)) :
    (object (front ++ back)).member? name =
      ((object front).member? name).or ((object back).member? name) := by
  simp [member?, List.find?_append, Option.map_or]

theorem member?_filter {names : List String} {name : String} (known : name ∈ names)
    (members : List (String × Json)) :
    (object (members.filter fun member => member.1 ∈ names)).member? name =
      (object members).member? name := by
  induction members with
  | nil => rfl
  | cons first rest ih =>
    obtain ⟨key, value⟩ := first
    by_cases same : key = name
    · subst same
      simp [known, member?_cons]
    · by_cases kept : key ∈ names <;> simp [kept, member?_cons, same, ih]

theorem fields?_filter (names : List String) (members : List (String × Json)) :
    (object (members.filter fun member => member.1 ∈ names)).fields? names =
      (object members).fields? names := by
  rw [fields?_object, fields?_object]
  exact congrArg some (List.map_congr_left fun name known => member?_filter known members)

def Inverts {α : Type} (read : Json → Option α) (write : α → Json) : Prop :=
  ∀ a, read (write a) = some a

section

variable {α : Type} {read : Json → Option α} {write : α → Json}

theorem Inverts.required (inverts : Inverts read write) (a : α) :
    required? read (some (write a)) = some a :=
  inverts a

theorem Inverts.optional (inverts : Inverts read write) (absent a : α) :
    optional? absent read (some (write a)) = some a :=
  inverts a

theorem Inverts.array (inverts : Inverts read write) :
    Inverts (listOf? read) fun l => .array (l.map write) := by
  intro l
  change (l.map write).mapM read = some l
  induction l with
  | nil => rfl
  | cons a rest ih => simp [inverts a, ih]

theorem Inverts.object (inverts : Inverts read write) :
    Inverts (mapOf? read) fun l => .object (l.map fun (key, a) => (key, write a)) := by
  intro l
  change (l.map fun (key, a) => (key, write a)).mapM _ = some l
  induction l with
  | nil => rfl
  | cons entry rest ih => simp [inverts entry.2, ih]

theorem Inverts.whenSet (inverts : Inverts read write) (set : ∀ a, write a ≠ null)
    (value : Option α) : optional? none (nullable? read) (value.map write) = some value := by
  cases value with
  | none => rfl
  | some a =>
    have written := inverts a
    cases json : write a <;> simp_all [optional?, nullable?]

variable {field : Option Json} {a : α}

theorem present_of_required (found : required? read field = some a) : field ≠ none := by
  rintro rfl
  cases found

theorem eq_of_missing {absent : α} (found : optional? absent read field = some a)
    (missing : field = none) : a = absent := by
  subst missing
  exact (Option.some.inj found).symm

end

theorem inverts_string : Inverts string? string :=
  fun _ => rfl

theorem inverts_strings : Inverts strings? strings :=
  inverts_string.array

/-- How a record is written that was read from `members`: it has none of the names that are not in
`names`, and for a known name that was missing it has what `unset` says, which may be nothing. -/
structure Completes (names : List String) (unset : List (String × Option Json))
    (members : List (String × Json)) (written : Json) : Prop where
  unknown : ∀ name, name ∉ names → written.member? name = none
  missing : ∀ name ∈ names, (object members).member? name = none →
    (name, written.member? name) ∈ unset

end MailRelay.Json
