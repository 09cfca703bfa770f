import MailRelay.Text.Blank

set_option autoImplicit false

namespace MailRelay

inductive FieldToken where
  | char (c : Char)
  | blank (s : List Char)
  | word (s : List Char)
  deriving DecidableEq, Repr

inductive AddressItem where
  | mailbox (address : List Char)
  | group (members : List (List Char))
  deriving DecidableEq, Repr

namespace AddressList

-- Text is kept with its last character first.
inductive Place where
  | between
  | opened
  | quotedName
  | escapedChar
  | afterQuotedName
  | brackets (address : List Char)
  | afterBrackets
  | plain (text : List Char)
  | encodedName
  | bracketsComment
  | plainComment (text : List Char)
  deriving DecidableEq, Repr

-- The last item comes first, and so does the last member of the open group.
structure Reader where
  place : Place
  items : List AddressItem
  members : Option (List (List Char))
  deriving DecidableEq, Repr

def start : Reader := ⟨.between, [], none⟩

namespace Reader

def goto (r : Reader) (place : Place) : Reader :=
  { r with place }

def add? (r : Reader) (address : List Char) : Option Reader :=
  if address.contains '@' then
    match r.members with
    | some members => some { r with members := some (address :: members) }
    | none => some { r with items := .mailbox address :: r.items }
  else none

def openGroup? (r : Reader) : Option Reader :=
  match r.members with
  | some _ => none
  | none => some { r with place := .opened, members := some [] }

-- With no group open, the semicolon counts as a comma.
def closeGroup (r : Reader) : Reader :=
  match r.members with
  | some members => ⟨.between, .group members.reverse :: r.items, none⟩
  | none => r.goto .between

def plainAddress (text : List Char) : List Char :=
  Text.trimEnd text.reverse

def between? (r : Reader) : FieldToken → Option Reader
  | .char c =>
    if Text.isBlank c then some (r.goto .between)
    else if c == '"' then some (r.goto .quotedName)
    else if c == '<' then some (r.goto (.brackets []))
    else if c == ';' then if r.members.isSome then some r.closeGroup else none
    else some (r.goto (.plain [c]))
  | .blank _ => some (r.goto .between)
  | .word _ => some (r.goto .encodedName)

def step? (r : Reader) (t : FieldToken) : Option Reader :=
  match r.place with
  | .between | .opened => r.between? t
  | .quotedName =>
    match t with
    | .char '\\' => some (r.goto .escapedChar)
    | .char '"' => some (r.goto .afterQuotedName)
    | _ => some r
  | .escapedChar =>
    match t with
    | .word _ => none
    | _ => some (r.goto .quotedName)
  | .afterQuotedName =>
    match t with
    | .char '<' => some (r.goto (.brackets []))
    | .char ':' => r.openGroup?
    | .char '"' => some (r.goto .quotedName)
    | .word _ => none
    | _ => some r
  | .brackets address =>
    match t with
    | .char '>' => (r.add? address.reverse).map (·.goto .afterBrackets)
    | .char c => some (r.goto (.brackets (c :: address)))
    | .blank s => some (r.goto (.brackets (s.reverse ++ address)))
    | .word _ => none
  | .afterBrackets =>
    match t with
    | .char c =>
      if Text.isBlank c then some r
      else if c == ',' then some (r.goto .between)
      else if c == ';' then some r.closeGroup
      else if c == '(' then some (r.goto .bracketsComment)
      else none
    | .blank _ => some r
    | .word _ => none
  | .plain text =>
    match t with
    | .char '<' => some (r.goto (.brackets []))
    | .char ',' => (r.add? (plainAddress text)).map (·.goto .between)
    | .char ';' => (r.add? (plainAddress text)).map closeGroup
    | .char ':' => r.openGroup?
    | .char '(' => some (r.goto (.plainComment text))
    | .char c => some (r.goto (.plain (c :: text)))
    | .blank s => some (r.goto (.plain (s.reverse ++ text)))
    | .word _ => some (r.goto .encodedName)
  | .encodedName =>
    match t with
    | .char '<' => some (r.goto (.brackets []))
    | .char ':' => r.openGroup?
    | _ => some r
  | .bracketsComment =>
    match t with
    | .char ')' => some (r.goto .afterBrackets)
    | _ => some r
  | .plainComment text =>
    match t with
    | .char ')' => some (r.goto (.plain text))
    | _ => some r

-- A group may end with the text only when nothing follows its colon.
def finish? (r : Reader) : Option (List AddressItem) :=
  match r.place, r.members with
  | .opened, some members => some (.group members.reverse :: r.items).reverse
  | .between, none | .afterBrackets, none => some r.items.reverse
  | .plain text, none => (r.add? (plainAddress text)).map (·.items.reverse)
  | _, _ => none

end Reader

def ofTokens? (tokens : List FieldToken) : Option (List AddressItem) :=
  (tokens.foldlM Reader.step? start).bind Reader.finish?

def ofText? (s : List Char) : Option (List AddressItem) :=
  ofTokens? (s.map .char)

def addresses (items : List AddressItem) : List (List Char) :=
  items.flatMap fun
    | .mailbox address => [address]
    | .group members => members

end AddressList

end MailRelay
