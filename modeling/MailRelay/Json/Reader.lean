import MailRelay.SortedMap
import MailRelay.Text.Ascii
import MailRelay.Text.Utf8

set_option autoImplicit false

namespace MailRelay

inductive JsonFault where
  | notJson
  | wrongType
  deriving DecidableEq, Repr

abbrev JsonReader := StateT Bytes (Except JsonFault)

namespace JsonReader

@[match_pattern] abbrev quote : UInt8 := 34
@[match_pattern] abbrev backslash : UInt8 := 92
@[match_pattern] abbrev unicodeMark : UInt8 := 117
@[match_pattern] abbrev colon : UInt8 := 58
@[match_pattern] abbrev point : UInt8 := 46
@[match_pattern] abbrev plus : UInt8 := 43
@[match_pattern] abbrev minus : UInt8 := 45

def byte (c : Char) : UInt8 := UInt8.ofNat c.toNat

def isBlank (b : UInt8) : Bool := b == 32 || b == 10 || b == 9 || b == 13

def dropBlanks (s : Bytes) : Bytes := s.dropWhile isBlank

def digit? (b : UInt8) : Option Nat := Text.digit? (Char.ofNat b.toNat)

def hexDigit? (b : UInt8) : Option Nat := Text.hexDigit? (Char.ofNat b.toNat)

def unit? (a b c d : UInt8) : Option Nat := do
  return 4096 * (← hexDigit? a) + 256 * (← hexDigit? b) + 16 * (← hexDigit? c) + (← hexDigit? d)

def escaped? (b : UInt8) : Option UInt8 :=
  match Char.ofNat b.toNat with
  | '"' | '\\' | '/' => some b
  | 'b' => some 8
  | 'f' => some 12
  | 'n' => some 10
  | 'r' => some 13
  | 't' => some 9
  | _ => none

def isHighSurrogate (n : Nat) : Bool := 0xD800 ≤ n && n ≤ 0xDBFF
def isLowSurrogate (n : Nat) : Bool := 0xDC00 ≤ n && n ≤ 0xDFFF

def pushChar (n : Nat) (read : Bytes) : Bytes :=
  (String.utf8EncodeChar (Char.ofNat n)).reverse ++ read

-- The bytes that are given back have the last one first.
def stringBytes? (read : Bytes) : Bytes → Option (Bytes × Bytes)
  | [] => none
  | quote :: rest => some (read, rest)
  | backslash :: unicodeMark :: a :: b :: c :: d :: rest => do
    let n ← unit? a b c d
    if isLowSurrogate n then none
    else if isHighSurrogate n then
      match rest with
      | backslash :: unicodeMark :: e :: f :: g :: h :: rest =>
        let m ← unit? e f g h
        if isLowSurrogate m then
          stringBytes? (pushChar (0x10000 + (n - 0xD800) * 1024 + (m - 0xDC00)) read) rest
        else none
      | _ => none
    else stringBytes? (pushChar n read) rest
  | backslash :: b :: rest => do stringBytes? ((← escaped? b) :: read) rest
  | b :: rest => if b < 32 || b == backslash then none else stringBytes? (b :: read) rest

def string? (s : Bytes) : Option (String × Bytes) := do
  let (read, rest) ← stringBytes? [] s
  match Utf8.decode read.reverse with
  | .ok text => some (String.ofList text, rest)
  | .error _ => none

def skipString? : Bytes → Option Bytes
  | [] => none
  | quote :: rest => some rest
  | backslash :: unicodeMark :: a :: b :: c :: d :: rest => do
    let _ ← unit? a b c d
    skipString? rest
  | backslash :: b :: rest => do
    let _ ← escaped? b
    skipString? rest
  | b :: rest => if b < 32 || b == backslash then none else skipString? rest

def isDigit (b : UInt8) : Bool := (digit? b).isSome

def digits (s : Bytes) : List Nat × Bytes :=
  ((s.takeWhile isDigit).filterMap digit?, s.dropWhile isDigit)

structure Decimal where
  digits : List Nat
  places : Nat
  exponent : Int

def wholePart? (s : Bytes) : Option (List Nat × Bytes) :=
  match digits s with
  | ([], _) => none
  | (0 :: _ :: _, _) => none
  | found => some found

def fraction? (s : Bytes) : Option (List Nat × Bytes) :=
  match s with
  | point :: rest =>
    match digits rest with
    | ([], _) => none
    | found => some found
  | _ => some ([], s)

def ofDigits (ds : List Nat) : Nat := ds.foldl (fun n d => 10 * n + d) 0

def exponent? (s : Bytes) : Option (Int × Bytes) :=
  match s with
  | [] => some (0, s)
  | e :: rest =>
    if e == byte 'e' || e == byte 'E' then
      let (negative, rest) := match rest with
        | plus :: rest => (false, rest)
        | minus :: rest => (true, rest)
        | _ => (false, rest)
      match digits rest with
      | ([], _) => none
      | (ds, rest) =>
        let size := Int.ofNat (ofDigits ds)
        some (if negative then -size else size, rest)
    else some (0, s)

def decimal? (s : Bytes) : Option (Decimal × Bytes) := do
  let (whole, s) ← wholePart? s
  let (fraction, s) ← fraction? s
  let (exponent, s) ← exponent? s
  return (⟨whole ++ fraction, fraction.length, exponent⟩, s)

-- From here on numbers round to infinity in 64 bits.
def tooLarge : Nat := Nat.pow 2 1024 - Nat.pow 2 970

def Decimal.fits (d : Decimal) : Bool :=
  let significant := d.digits.dropWhile (· == 0)
  let scale := d.exponent - d.places
  let magnitude := scale + significant.length
  if significant.isEmpty || magnitude < 308 then true
  else if 310 < magnitude then false
  else if 0 ≤ scale then ofDigits significant * Nat.pow 10 scale.toNat < tooLarge
  else ofDigits significant < tooLarge * Nat.pow 10 (-scale).toNat

def literal? (word : String) (s : Bytes) : Option Bytes :=
  let letters := Utf8.ofString word
  if letters.isPrefixOf s then some (s.drop letters.length) else none

-- What is wrong with a value of another type: even that value has to be JSON.
def otherType (s : Bytes) : JsonFault :=
  let judge {α : Type} (found : Option α) := if found.isSome then JsonFault.wrongType else .notJson
  let number (s : Bytes) := judge ((decimal? s).filter (·.1.fits))
  match s with
  | [] => .notJson
  | b :: rest =>
    match Char.ofNat b.toNat with
    | 'n' => judge (literal? "null" s)
    | 't' => judge (literal? "true" s)
    | 'f' => judge (literal? "false" s)
    | '-' => number rest
    | '"' => judge (string? rest)
    | '[' | '{' => .wrongType
    | _ => if isDigit b then number s else .notJson

def blanks : JsonReader Unit := modify dropBlanks

def peek : JsonReader UInt8 := do
  blanks
  match ← get with
  | b :: _ => return b
  | [] => throw .notJson

def tryByte (c : Char) : JsonReader Bool := do
  if (← peek) == byte c then
    modify (·.drop 1)
    return true
  else return false

def expect (c : Char) : JsonReader Unit := do
  if !(← tryByte c) then throw .notJson

def sift {α : Type} (found : Option (α × Bytes)) : JsonReader α :=
  match found with
  | some (a, rest) => do
    set rest
    return a
  | none => throw .notJson

def opened {α : Type} (c : Char) (inner : JsonReader α) : JsonReader α := do
  if ← tryByte c then inner else throw (otherType (← get))

def string : JsonReader String :=
  opened '"' do sift (string? (← get))

def nullable {α : Type} (value : JsonReader α) : JsonReader (Option α) := do
  if (← peek) == byte 'n' then
    let _ ← sift ((literal? "null" (← get)).map fun rest => ((), rest))
    return none
  else some <$> value

-- Whether another item follows; `first` says that none has come yet.
def another (first : Bool) (close : Char) : JsonReader Bool := do
  if (← peek) == byte close then return false
  else if first then return true
  else
    expect ','
    if (← peek) == byte close then throw .notJson
    return true

def itemsFrom {α : Type} (item : JsonReader α) : (fuel : Nat) → List α → JsonReader (List α)
  | 0, _ => throw .notJson
  | fuel + 1, read => do
    if ← another read.isEmpty ']' then itemsFrom item fuel ((← item) :: read)
    else
      expect ']'
      return read.reverse

def list {α : Type} (item : JsonReader α) : JsonReader (List α) :=
  opened '[' do itemsFrom item ((← get).length + 1) []

def key : JsonReader String := do
  expect '"'
  sift (string? (← get))

def membersFrom {α : Type} (value : JsonReader α) :
    (fuel : Nat) → List (String × α) → JsonReader (List (String × α))
  | 0, _ => throw .notJson
  | fuel + 1, read => do
    if ← another read.isEmpty '}' then
      let name ← key
      expect ':'
      membersFrom value fuel ((name, ← value) :: read)
    else
      expect '}'
      return read.reverse

-- Of two members with one name the later one counts.
def map {α : Type} (value : JsonReader α) : JsonReader (SortedMap String α) :=
  opened '{' do return .ofList (← membersFrom value ((← get).length + 1) [])

inductive Awaited where
  | value
  | itemOrEnd
  | keyOrEnd
  | key
  | commaOrEnd
  deriving DecidableEq, Repr

inductive Container where
  | list
  | object
  deriving DecidableEq, Repr

def skipScalar? (b : UInt8) (s rest : Bytes) : Option Bytes :=
  match Char.ofNat b.toNat with
  | 'n' => literal? "null" s
  | 't' => literal? "true" s
  | 'f' => literal? "false" s
  | '"' => skipString? rest
  | '-' => (decimal? rest).map (·.2)
  | _ => (decimal? s).map (·.2)

def skipKey? (rest : Bytes) : Option Bytes := do
  match dropBlanks (← skipString? rest) with
  | colon :: rest => some rest
  | _ => none

/-- Passes over the rest of a value, given the containers that are open in it. -/
def skipFrom (open_ : List Container) (awaited : Awaited) : (fuel : Nat) → Bytes → Option Bytes
  | 0, _ => none
  | fuel + 1, s =>
    match dropBlanks s with
    | [] => none
    | b :: rest =>
      let closes : Option (List Container) :=
        match open_, awaited with
        | .list :: outer, .itemOrEnd | .list :: outer, .commaOrEnd =>
          if b == byte ']' then some outer else none
        | .object :: outer, .keyOrEnd | .object :: outer, .commaOrEnd =>
          if b == byte '}' then some outer else none
        | _, _ => none
      match closes with
      | some [] => some rest
      | some outer => skipFrom outer .commaOrEnd fuel rest
      | none =>
        match awaited with
        | .commaOrEnd =>
          if b == byte ',' then
            skipFrom open_ (if open_.head? = some .list then .value else .key) fuel rest
          else none
        | .keyOrEnd | .key =>
          if b == byte '"' then
            match skipKey? rest with
            | some rest => skipFrom open_ .value fuel rest
            | none => none
          else none
        | .value | .itemOrEnd =>
          if b == byte '[' then skipFrom (.list :: open_) .itemOrEnd fuel rest
          else if b == byte '{' then skipFrom (.object :: open_) .keyOrEnd fuel rest
          else
            match skipScalar? b (b :: rest) rest with
            | some rest => if open_.isEmpty then some rest else skipFrom open_ .commaOrEnd fuel rest
            | none => none

def skip : JsonReader Unit := do
  let s ← get
  sift ((skipFrom [] .value (s.length + 1) s).map fun rest => ((), rest))

structure RecordField (σ : Type) where
  name : String
  change : JsonReader (σ → σ)

def field {σ α : Type} (name : String) (value : JsonReader α) (put : σ → α → σ) : RecordField σ :=
  ⟨name, do
    let a ← value
    return fun s => put s a⟩

/-- The members of a record; no field may come twice, and unknown members are passed over. -/
def recordMembers {σ : Type} (fields : List (RecordField σ)) :
    (fuel : Nat) → (first : Bool) → (seen : List String) → σ → JsonReader σ
  | 0, _, _, _ => throw .notJson
  | fuel + 1, first, seen, s => do
    if ← another first '}' then
      let name ← key
      match fields.find? (·.name == name) with
      | some f =>
        if seen.contains name then throw .wrongType
        expect ':'
        let change ← f.change
        recordMembers fields fuel false (name :: seen) (change s)
      | none =>
        expect ':'
        skip
        recordMembers fields fuel false seen s
    else
      expect '}'
      return s

-- The last ones may be missing.
def recordItems {σ : Type} (first : Bool) : List (RecordField σ) → σ → JsonReader σ
  | [], s => do
    expect ']'
    return s
  | f :: rest, s => do
    if ← another first ']' then
      let change ← f.change
      recordItems false rest (change s)
    else
      expect ']'
      return s

/-- A record, written as an object or as a list. Fields that are missing stay as they are in
`initial`. -/
def record {σ : Type} (fields : List (RecordField σ)) (initial : σ) : JsonReader σ := do
  if ← tryByte '[' then recordItems true fields initial
  else opened '{' do recordMembers fields ((← get).length + 1) true [] initial

def document {α : Type} (value : JsonReader α) (text : Bytes) : Except JsonFault α :=
  match value text with
  | .ok (a, rest) => if (dropBlanks rest).isEmpty then .ok a else .error .notJson
  | .error e => .error e

end JsonReader

end MailRelay
