set_option autoImplicit false

namespace MailRelay

inductive Json where
  | null
  | bool (b : Bool)
  | natural (n : Nat)
  | otherNumber
  | string (s : String)
  | array (items : List Json)
  | object (members : List (String × Json))
  deriving Inhabited

namespace Json

def string? : Json → Option String
  | string s => some s
  | _ => none

def below? (bound : Nat) : Json → Option Nat
  | natural n => if n < bound then some n else none
  | _ => none

def listOf? {α : Type} (read : Json → Option α) : Json → Option (List α)
  | array items => items.mapM read
  | _ => none

def strings? (j : Json) : Option (List String) :=
  j.listOf? string?

def mapOf? {α : Type} (read : Json → Option α) : Json → Option (List (String × α))
  | object members => members.mapM fun (k, v) => (read v).map (k, ·)
  | _ => none

def nullable? {α : Type} (read : Json → Option α) : Json → Option (Option α)
  | null => some none
  | j => (read j).map some

def strings (l : List String) : Json :=
  array (l.map string)

/-- The values of a record in the order of its fields, which may be written by name or as a list
without the last ones. Other members are passed over. -/
def fields? (names : List String) : Json → Option (List (Option Json))
  | object members => some (names.map fun name => (members.find? (·.1 == name)).map (·.2))
  | array items =>
    if names.length < items.length then none
    else some ((items.map some) ++ List.replicate (names.length - items.length) none)
  | _ => none

def required? {α : Type} (read : Json → Option α) (field : Option Json) : Option α :=
  field.bind read

def optional? {α : Type} (absent : α) (read : Json → Option α) : Option Json → Option α
  | none => some absent
  | some j => read j

end Json

end MailRelay
