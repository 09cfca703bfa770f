import MailRelay.Text.Ascii
import MailRelay.Text.Utf8

set_option autoImplicit false

namespace MailRelay.Ron

abbrev Reader := StateT (List Char) Option

structure Options where
  implicitSome : Bool
  explicitNames : Bool
  deriving DecidableEq, Repr

-- How deep values may nest; a list or a record counts twice.
def maxDepth : Nat := 128

def isBlank (c : Char) : Bool :=
  let n := c.toNat
  (9 ≤ n && n ≤ 13) || n == 0x20 || n == 0x85 || n == 0x200E || n == 0x200F || n == 0x2028
    || n == 0x2029

def letterRanges : List (Nat × Nat) :=
  [(0xAA, 0xAA), (0xB5, 0xB5), (0xBA, 0xBA), (0xC0, 0xD6), (0xD8, 0xF6), (0xF8, 0x2C1),
    (0x370, 0x374), (0x376, 0x377), (0x37B, 0x37D), (0x37F, 0x37F), (0x386, 0x386),
    (0x388, 0x481), (0x48A, 0x556), (0x561, 0x587), (0x5D0, 0x5EA), (0x620, 0x64A),
    (0x671, 0x6D3), (0x904, 0x939), (0xE01, 0xE30), (0x10A0, 0x10FF), (0x1E00, 0x1FBC),
    (0x3041, 0x3096), (0x30A1, 0x30FA), (0x3400, 0x4DBF), (0x4E00, 0x9FFF), (0xAC00, 0xD7A3),
    (0x20000, 0x2A6DF)]

def isLetter (c : Char) : Bool :=
  c.isAlpha || letterRanges.any fun (low, high) => low ≤ c.toNat && c.toNat ≤ high

def startsName (c : Char) : Bool := c == '_' || isLetter c
def isNameChar (c : Char) : Bool := c == '_' || c.isDigit || isLetter c || c == '·'
def isRawNameChar (c : Char) : Bool := isNameChar c || c == '.' || c == '+' || c == '-'

inductive CommentState where
  | outside
  | line
  | block (depth : Nat)

-- Blocks nest, and one that does not end is refused.
def dropBlanks (state : CommentState) : List Char → Option (List Char)
  | [] =>
    match state with
    | .block _ => none
    | _ => some []
  | c :: rest =>
    match state with
    | .outside =>
      if c == '/' then
        match rest with
        | '/' :: rest => dropBlanks .line rest
        | '*' :: rest => dropBlanks (.block 0) rest
        | _ => none
      else if isBlank c then dropBlanks .outside rest
      else some (c :: rest)
    | .line => if c == '\n' then dropBlanks .outside rest else dropBlanks .line rest
    | .block depth =>
      match c, rest with
      | '/', '*' :: rest => dropBlanks (.block (depth + 1)) rest
      | '*', '/' :: rest =>
        dropBlanks (match depth with | 0 => .outside | outer + 1 => .block outer) rest
      | _, rest => dropBlanks (.block depth) rest

def blanks : Reader Unit := fun s =>
  (dropBlanks .outside s).map ((), ·)

def tryWord (word : String) : Reader Bool := fun s =>
  let w := word.toList
  if w.isPrefixOf s then some (true, s.drop w.length) else some (false, s)

def word (w : String) : Reader Unit := do
  if !(← tryWord w) then failure

def next? : Reader (Option Char) := fun s => some (s.head?, s)

def takeChar : Reader Char := fun s =>
  match s with
  | c :: rest => some (c, rest)
  | [] => none

def takeWhile (p : Char → Bool) : Reader (List Char) := fun s =>
  some (s.takeWhile p, s.dropWhile p)

def comma : Reader Bool := do
  blanks
  if ← tryWord "," then
    blanks
    return true
  else return false

def startsQuoted (s : List Char) : Bool :=
  ["b\"", "b'", "br#", "br\"", "r\"", "r#\"", "r##"].any fun w => w.toList.isPrefixOf s

def name? : Reader (Option String) := fun s =>
  if startsQuoted s then some (none, s)
  else
    match s with
    | 'r' :: '#' :: rest =>
      match rest.takeWhile isRawNameChar with
      | [] => some (none, s)
      | name => some (some (String.ofList name), rest.drop name.length)
    | c :: _ =>
      if startsName c then
        let name := s.takeWhile isNameChar
        some (some (String.ofList name), s.drop name.length)
      else some (none, s)
    | [] => some (none, s)

-- A name with a point, a plus or a minus has to be written as a raw name.
def name : Reader String := do
  match ← name? with
  | some name =>
    match ← next? with
    | some c => if isRawNameChar c then failure else return name
    | none => return name
  | none => failure

def tryKeyword (keyword : String) : Reader Bool := fun s =>
  let w := keyword.toList
  let rest := s.drop w.length
  if w.isPrefixOf s && !((rest.head?.map isNameChar).getD false) then some (true, rest)
  else some (false, s)

/- Numbers. -/

def isDigitOrSpacer (c : Char) : Bool := (Text.hexDigit? c).isSome || c == '_'

def digits? (base : Nat) (s : List Char) : Option Nat :=
  s.foldl (fun n c => n.bind fun n =>
    if c == '_' then some n
    else (Text.hexDigit? c).bind fun d => if d < base then some (base * n + d) else none) (some 0)

def base : Reader Nat := do
  if ← tryWord "0b" then return 2
  else if ← tryWord "0o" then return 8
  else if ← tryWord "0x" then return 16
  else return 10

def magnitude : Reader Nat := do
  let base ← base
  let digits ← takeWhile isDigitOrSpacer
  if digits.isEmpty || digits.head? == some '_' then failure
  else
    match digits? base digits with
    | some n => return n
    | none => failure

def sign : Reader Bool := do
  if ← tryWord "-" then return true
  else
    let _ ← tryWord "+"
    return false

def integerSuffixes : List String :=
  ["i8", "i16", "i32", "i64", "i128", "u8", "u16", "u32", "u64", "u128"]

-- The only type that the number may name is its own.
def natural (bits : Nat) : Reader Nat := do
  let negative ← sign
  let n ← magnitude
  if Nat.pow 2 bits ≤ n || (negative && n != 0) then failure
  let _ ← tryKeyword s!"u{bits}"
  return n

def anyInteger : Reader Unit := do
  let _ ← sign
  let _ ← magnitude
  let rest ← get
  match integerSuffixes.find? fun suffix => suffix.toList.isPrefixOf rest with
  | some suffix => let _ ← tryKeyword suffix
  | none => return ()

def isFloatChar (c : Char) : Bool :=
  c.isDigit || c == 'e' || c == 'E' || c == '.' || c == '+' || c == '-' || c == '_'

def isDecimal (s : List Char) : Bool :=
  let s := match s with
    | '+' :: rest | '-' :: rest => rest
    | _ => s
  let whole := s.takeWhile Char.isDigit
  let s := s.drop whole.length
  let (part, s) := match s with
    | '.' :: rest => (rest.takeWhile Char.isDigit, rest.dropWhile Char.isDigit)
    | _ => ([], s)
  let exponentFits := match s with
    | [] => true
    | c :: rest =>
      let rest := match rest with
        | '+' :: rest | '-' :: rest => rest
        | _ => rest
      (c == 'e' || c == 'E') && !rest.isEmpty && rest.all Char.isDigit
  !(whole.isEmpty && part.isEmpty) && exponentFits

def float : Reader Unit := do
  let s ← takeWhile isFloatChar
  if !isDecimal s then failure
  if !(← tryKeyword "f32") then
    let _ ← tryKeyword "f64"

-- It is read as an integer unless it goes on where an integer would end.
def anyNumber : Reader Unit := fun s =>
  let unsigned := match s with
    | '+' :: rest | '-' :: rest => rest
    | _ => s
  if (unsigned.takeWhile isDigitOrSpacer).length < (unsigned.takeWhile isFloatChar).length then
    float s
  else anyInteger s

/- Strings. -/

def codePoint (value count : Nat) : List Char → Option (Char × List Char)
  | [] => none
  | c :: rest =>
    if c == '\x7d' then
      if count == 0 || !value.isValidChar then none else some (Char.ofNat value, rest)
    else if count == 6 then none
    else (Text.hexDigit? c).bind fun d => codePoint (16 * value + d) (count + 1) rest

def escape : List Char → Option (Bytes × List Char)
  | '\'' :: rest => some ([39], rest)
  | '"' :: rest => some ([34], rest)
  | '\\' :: rest => some ([92], rest)
  | 'n' :: rest => some ([10], rest)
  | 'r' :: rest => some ([13], rest)
  | 't' :: rest => some ([9], rest)
  | '0' :: rest => some ([0], rest)
  | 'x' :: a :: b :: rest => do
    let x ← Text.hexDigit? a
    let y ← Text.hexDigit? b
    return ([UInt8.ofNat (16 * x + y)], rest)
  | 'u' :: '\x7b' :: rest => do
    let (c, rest) ← codePoint 0 0 rest
    return (Utf8.encode [c], rest)
  | _ => none

-- The bytes `read` have the last one first.
def escapedBytes (read : Bytes) : (fuel : Nat) → List Char → Option (Bytes × List Char)
  | 0, _ | _, [] => none
  | fuel + 1, c :: rest =>
    if c == '"' then some (read.reverse, rest)
    else if c == '\\' then
      match escape rest with
      | some (bytes, rest) => escapedBytes (bytes.reverse ++ read) fuel rest
      | none => none
    else escapedBytes ((Utf8.encode [c]).reverse ++ read) fuel rest

def rawChars (mark : List Char) (read : List Char) : List Char → Option (List Char × List Char)
  | [] => none
  | c :: rest =>
    if mark.isPrefixOf (c :: rest) then some (read.reverse, (c :: rest).drop mark.length)
    else rawChars mark (c :: read) rest

def rawString : Reader (List Char) := do
  let hashes ← takeWhile (· == '#')
  word "\""
  fun s => rawChars ('"' :: hashes) [] s

def escapedString : Reader Bytes := fun s =>
  escapedBytes [] (s.length + 1) s

def string : Reader String := do
  if ← tryWord "\"" then
    match Utf8.decode (← escapedString) with
    | .ok s => return String.ofList s
    | .error _ => failure
  else
    word "r"
    return String.ofList (← rawString)

def character : Reader Unit := do
  let c ← takeChar
  if c == '\\' then
    let _ ← (fun s => escape s : Reader Bytes)
  word "'"

def byteText : Reader Unit := do
  word "b"
  if ← tryWord "'" then character
  else if ← tryWord "\"" then let _ ← escapedString
  else
    word "r"
    let _ ← rawString

def boolean : Reader Bool := do
  if ← tryKeyword "true" then return true
  else if ← tryKeyword "false" then return false
  else failure

-- Inside `Some` a final comma is allowed.
def option {α : Type} (options : Options) (value : Reader α) : Reader (Option α) := do
  if ← tryKeyword "None" then return none
  let explicit ← tryKeyword "Some"
  if explicit then
    blanks
    word "("
    blanks
    let a ← value
    let _ ← comma
    word ")"
    return some a
  else if options.implicitSome then return some (← value)
  else failure

/- Values of unknown fields. -/

def opensRecord (s : List Char) : Bool :=
  match (do blanks; let n ← name?; blanks; return (n, ← next?) : Reader _).run s with
  | some ((some _, some ':'), _) => true
  | _ => false

mutual

def skip (options : Options) (depth : Nat) : (fuel : Nat) → Reader Unit
  | 0 => failure
  | fuel + 1 => do
    let s ← get
    if (← tryKeyword "true") || (← tryKeyword "false") then return ()
    if (← tryKeyword "Some") then
      blanks
      word "("
      blanks
      skipInner options depth fuel
      let _ ← comma
      word ")"
      return ()
    if (← tryKeyword "None") || (← tryKeyword "inf") || (← tryKeyword "NaN") then return ()
    match ← name? with
    | some _ =>
      blanks
      if (← next?) == some '(' then skipParenthesis options depth fuel
    | none =>
      match s with
      | '(' :: _ => skipParenthesis options depth fuel
      | '[' :: _ =>
        word "["
        skipItems options depth ']' fuel
      | '\x7b' :: _ =>
        word "\x7b"
        skipMembers options depth false '\x7d' fuel
      | '"' :: _ | 'r' :: _ => let _ ← string
      | 'b' :: _ => byteText
      | '\'' :: _ =>
        word "'"
        character
      | _ => anyNumber
  termination_by structural fuel => fuel

def skipInner (options : Options) (depth : Nat) : (fuel : Nat) → Reader Unit
  | 0 => failure
  | fuel + 1 =>
    match depth with
    | 0 => failure
    | depth + 1 => skip options depth fuel
  termination_by structural fuel => fuel

def skipParenthesis (options : Options) (depth : Nat) : (fuel : Nat) → Reader Unit
  | 0 => failure
  | fuel + 1 => do
    word "("
    if opensRecord (← get) then skipMembers options depth true ')' fuel
    else skipItems options depth ')' fuel
  termination_by structural fuel => fuel

def skipItems (options : Options) (depth : Nat) (close : Char) : (fuel : Nat) → Reader Unit
  | 0 => failure
  | fuel + 1 =>
    match depth with
    | 0 => failure
    | depth + 1 => do
      blanks
      if ← tryWord (String.singleton close) then return ()
      skipInner options depth fuel
      if ← comma then skipItems options (depth + 1) close fuel
      else word (String.singleton close)
  termination_by structural fuel => fuel

def skipMembers (options : Options) (depth : Nat) (named : Bool) (close : Char) :
    (fuel : Nat) → Reader Unit
  | 0 => failure
  | fuel + 1 =>
    match depth with
    | 0 => failure
    | depth + 1 => do
      blanks
      if ← tryWord (String.singleton close) then return ()
      if named then let _ ← name
      else skipInner options depth fuel
      blanks
      word ":"
      blanks
      skipInner options depth fuel
      if ← comma then skipMembers options (depth + 1) named close fuel
      else word (String.singleton close)
  termination_by structural fuel => fuel

end

def skipValue (options : Options) (depth : Nat) : Reader Unit := fun s =>
  skip options depth (4 * s.length + 4) s

/- Records of known fields. -/

structure RecordField (σ : Type) where
  name : String
  read : Options → (depth : Nat) → σ → Reader σ

-- A field may be given once.
def members {σ : Type} (options : Options) (fields : List (RecordField σ)) (depth : Nat)
    (seen : List String) (record : σ) : (fuel : Nat) → Reader σ
  | 0 => failure
  | fuel + 1 => do
    blanks
    if ← tryWord ")" then return record
    let name ← name
    blanks
    word ":"
    blanks
    let (seen, record) ← match fields.find? (·.name == name) with
      | some field =>
        if seen.contains name then failure
        pure (name :: seen, ← field.read options depth record)
      | none => do
        skipValue options depth
        pure (seen, record)
    if ← comma then members options fields depth seen record fuel
    else
      word ")"
      return record

def record {σ : Type} (type : String) (fields : List (RecordField σ)) (initial : σ)
    (options : Options) (depth : Nat) : Reader σ := do
  match ← next? with
  | some c =>
    if startsName c then
      if (← name) != type then failure
    else if options.explicitNames then failure
  | none => failure
  blanks
  word "("
  match depth with
  | depth + 2 => fun s => members options fields depth [] initial (s.length + 1) s
  | _ => failure

/- Whole texts. -/

def withOption (options : Options) (name : String) : Option Options :=
  match name with
  | "implicit_some" => some { options with implicitSome := true }
  | "explicit_struct_names" => some { options with explicitNames := true }
  | "unwrap_newtypes" | "unwrap_variant_newtypes" => some options
  | _ => none

def optionNames (options : Options) : (fuel : Nat) → Reader Options
  | 0 => failure
  | fuel + 1 => do
    match withOption options (← name) with
    | none => failure
    | some options =>
      let more ← comma
      match ← next? with
      | some c =>
        if startsName c then if more then optionNames options fuel else failure
        else return options
      | none => return options

def wordsWithBlanks : List String → Reader Unit
  | [] => pure ()
  | [w] => word w
  | w :: rest => do
    word w
    blanks
    wordsWithBlanks rest

def attributes (options : Options) : (fuel : Nat) → Reader Options
  | 0 => failure
  | fuel + 1 => do
    blanks
    if (← next?) != some '#' then return options
    wordsWithBlanks ["#", "!", "[", "enable", "("]
    blanks
    let options ← optionNames options fuel
    blanks
    wordsWithBlanks [")", "]"]
    attributes options fuel

def document {α : Type} (value : Options → (depth : Nat) → Reader α) (text : String) :
    Option α := do
  let s := text.toList
  let (options, s) ← (attributes ⟨false, false⟩ (s.length + 1)).run s
  let (a, s) ← (value options maxDepth).run s
  let ((), s) ← blanks.run s
  if s.isEmpty then some a else none

end MailRelay.Ron
