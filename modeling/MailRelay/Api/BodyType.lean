import MailRelay.Text.Ascii

set_option autoImplicit false

namespace MailRelay

-- The subtype is without its suffix.
structure BodyType where
  type : String
  subtype : String
  suffix : Option String
  deriving DecidableEq, Repr

namespace BodyType

def isTokenChar (c : Char) : Bool :=
  Text.isGraphic c && !"\"(),/:;<=>?@[\\]\x7b\x7d".toList.contains c

def isQuotedChar (c : Char) : Bool := 31 < c.toNat && c.toNat < 127

def token (s : List Char) : List Char × List Char :=
  (s.takeWhile isTokenChar, s.dropWhile isTokenChar)

def afterQuoted? : List Char → Option (List Char)
  | [] => none
  | c :: rest =>
    if c == '"' then some rest else if isQuotedChar c then afterQuoted? rest else none

def parametersOk : (fuel : Nat) → List Char → Bool
  | 0, _ => false
  | fuel + 1, s =>
    match s.dropWhile (· == ' ') with
    | [] => true
    | s =>
      match token s with
      | (_ :: _, '=' :: '"' :: first :: rest) =>
        match if isQuotedChar first then afterQuoted? rest else none with
        | some rest =>
          match rest.dropWhile (· == ' ') with
          | [] => true
          | ';' :: rest => parametersOk fuel rest
          | _ => false
        | none => false
      | (_ :: _, '=' :: s) =>
        match token s with
        | (_, []) => true
        | (_ :: _, ';' :: rest) => parametersOk fuel rest
        | _ => false
      | _ => false

-- A sign in front does not count.
def splitSuffix (subtype : List Char) : List Char × Option (List Char) :=
  match subtype.reverse.span (· != '+') with
  | (suffix, _ :: first :: rest) => ((first :: rest).reverse, some suffix.reverse)
  | _ => (subtype, none)

def ofSubtype (type subtype : List Char) : BodyType :=
  let (name, suffix) := splitSuffix subtype
  ⟨String.ofList type, String.ofList name, suffix.map String.ofList⟩

def read? (text : String) : Option BodyType :=
  match token text.toList with
  | (first :: type, '/' :: s) =>
    match token s with
    | (subtype, []) => some (ofSubtype (first :: type) subtype)
    | (c :: subtype, ';' :: rest) =>
      if parametersOk (rest.length + 1) rest then some (ofSubtype (first :: type) (c :: subtype))
      else none
    | _ => none
  | _ => none

def isJson (m : BodyType) : Bool :=
  Text.sameLetters m.type "application"
    && (Text.sameLetters m.subtype "json" || m.suffix.any (Text.sameLetters "json"))

end BodyType

end MailRelay
