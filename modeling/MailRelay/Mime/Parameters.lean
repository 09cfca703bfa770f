import MailRelay.Mime.Charset
import MailRelay.SortedMap
import MailRelay.Text.Blank

set_option autoImplicit false

namespace MailRelay

structure Parameters where
  main : String
  values : SortedMap String String

namespace Parameters

def unquote (value : List Char) : List Char :=
  match value with
  | '"' :: rest => if rest.getLast? == some '"' then rest.dropLast else value
  | _ => value

def assignment? (s : List Char) : Option (String × String) :=
  match s.span (· != '=') with
  | (name, _ :: value) =>
    some (Text.lowercase (String.ofList (Text.trim name)),
      String.ofList (unquote (Text.trim value)))
  | _ => none

def hexByte? (b : UInt8) : Option Nat :=
  Text.hexDigit? (Char.ofNat b.toNat)

-- A percent sign that no two hexadecimal digits follow stays.
def percentDecodeAfter (read : Bytes) : Bytes → Bytes
  | 37 :: a :: b :: rest =>
    match hexByte? a, hexByte? b with
    | some x, some y => percentDecodeAfter (UInt8.ofNat (x * 16 + y) :: read) rest
    | some _, none => percentDecodeAfter (a :: 37 :: read) (b :: rest)
    | none, _ => percentDecodeAfter (37 :: read) (a :: b :: rest)
  | b :: rest => percentDecodeAfter (b :: read) rest
  | [] => read.reverse

def percentDecode (bytes : Bytes) : Bytes :=
  percentDecodeAfter [] bytes

def stem? (mark name : String) : Option String :=
  let size := name.length - mark.length
  if name.toList.drop size == mark.toList then some (String.ofList (name.toList.take size))
  else none

/-- Names that stand with the end `mark` but not without it, the mark left off. -/
def markedNames (mark : String) (values : SortedMap String String) : List String :=
  (values.keys.filterMap (stem? mark)).filter fun name => !values.contains name

def label (value : String) : String :=
  String.ofList (value.toList.takeWhile (· != '\''))

def afterLabel (value : String) : String :=
  let rest := value.toList.dropWhile (· != '\'') |>.drop 1
  String.ofList (rest.dropWhile (· != '\'') |>.drop 1)

/-- How an encoded section is read: under the label of its character set, and whether it begins with
that label. -/
abbrev Encodings := SortedMap String (String × Bool)

def labelOf (values : SortedMap String String) (name : String) : String :=
  label ((values.get? (name ++ "*")).getD "")

-- The label of a first section holds for all sections after it.
def addEncoding (values : SortedMap String String) (names : List String) (encodings : Encodings)
    (name : String) : Encodings :=
  match stem? "*0" name with
  | some parameter =>
    let sections := names.filter fun other => (parameter ++ "*").toList.isPrefixOf other.toList
    sections.foldl (fun encodings other =>
      encodings.insert other (labelOf values name, other == name)) encodings
  | none =>
    if encodings.contains name then encodings
    else encodings.insert name (labelOf values name, true)

variable [ForeignDecoders]

-- Under an unknown label a section stays as it is.
def decodeSection (values : SortedMap String String) (entry : String × String × Bool) :
    SortedMap String String :=
  let (name, label, labelled) := entry
  match Charset.readable? label with
  | some set =>
    let value := (values.get? (name ++ "*")).getD ""
    let content := if labelled then afterLabel value else value
    let decoded := set.decode (percentDecode (Utf8.ofString content))
    (values.erase (name ++ "*")).insert name (String.ofList decoded)
  | none => values

def decodeSections (values : SortedMap String String) : SortedMap String String :=
  let names := markedNames "*" values
  (names.foldl (addEncoding values names) .empty).entries.foldl decodeSection values

def joined (values : SortedMap String String) (name : String) (index : Nat) : Nat → String
  | 0 => ""
  | fuel + 1 =>
    match values.get? (name ++ "*" ++ index.repr) with
    | some value => value ++ joined values name (index + 1) fuel
    | none => ""

def joinSections (values : SortedMap String String) : SortedMap String String :=
  (markedNames "*0" values).foldl
    (fun joinedValues name => joinedValues.insert name (joined values name 0 values.size)) values

def read (value : String) : Parameters :=
  let parts := value.toList.splitOn ';'
  let main := String.ofList (Text.trim (parts.headD []))
  ⟨main, joinSections (decodeSections (SortedMap.ofList (parts.tail.filterMap assignment?)))⟩

def get? (p : Parameters) (name : String) : Option String :=
  p.values.get? name

end Parameters

end MailRelay
