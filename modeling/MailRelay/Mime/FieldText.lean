import MailRelay.Address.List
import MailRelay.Mime.Charset
import MailRelay.Mime.Transfer

set_option autoImplicit false

namespace MailRelay.FieldText

inductive Piece where
  | text (s : List Char)
  | blank (s : List Char)
  | word (s : List Char)
  | lineBreak
  deriving DecidableEq, Repr

def cutPair? (a b : Char) (before : List Char) : List Char → Option (List Char × List Char)
  | [] => none
  | c :: rest =>
    if c == a && rest.head? == some b then some (before.reverse, rest.tail)
    else cutPair? a b (c :: before) rest

theorem cutPair?_length {a b : Char} {before s left right : List Char}
    (h : cutPair? a b before s = some (left, right)) :
    right.length + 2 ≤ s.length := by
  induction s generalizing before with
  | nil => simp [cutPair?] at h
  | cons c rest ih =>
    simp only [cutPair?] at h
    split at h
    · next found =>
      simp only [Option.some.injEq, Prod.mk.injEq] at h
      obtain ⟨-, rfl⟩ := h
      cases rest with
      | nil => simp at found
      | cons d rest => simp
    · have := ih h
      simp only [List.length_cons]
      omega

def byteSize (s : List Char) : Nat :=
  s.foldl (fun n c => n + c.utf8Size) 0

-- Whether the character at an index bounds an encoded word; so do the ends of the line.
def isBound (chars : Array Char) (index : Nat) : Bool :=
  match chars[index]? with
  | some c =>
    Text.isBlank c || c == '"' || c == '(' || c == ')' || c == '<' || c == '>' || c == ','
  | none => true

def textOrBlank (s : List Char) : Piece :=
  if s.all Text.isBlank then .blank s else .text s

-- An underscore stands for a blank.
def unquoteWord (input : List Char) : Bytes :=
  let input := input.map fun c => if c == '_' then ' ' else c
  let trimmed := Text.trimEnd input
  QuotedText.decode (Utf8.encode trimmed) ++ Utf8.encode (input.drop trimmed.length)

def unwrapBase64? (input : List Char) : Option Bytes :=
  Base64.decode? ((Utf8.encode input).filter fun b => b != 10 && b != 13)

variable [ForeignDecoders]

def decodeWord? (inner : List Char) : Option (List Char) :=
  match inner.span (· != '?') with
  | (label, _ :: rest) =>
    match rest.span (· != '?') with
    | (encoding, _ :: input) => do
      let bytes ← match encoding with
        | ['B'] | ['b'] => unwrapBase64? input
        | ['Q'] | ['q'] => some (unquoteWord input)
        | _ => none
      let set ← Charset.readable? (String.ofList label)
      return set.decode bytes
    | _ => none
  | _ => none

/-- The end of an encoded word: what stands before it and what follows. `inner` holds what was
passed over, and `offset` is the index of `rest`. -/
def wordEnd? (line : Array Char) (offset : Nat) (inner rest : List Char) :
    Option (List Char × { after : List Char // after.length < rest.length }) :=
  match h : cutPair? '?' '=' [] rest with
  | none => none
  | some (before, after) =>
    have shorter := cutPair?_length h
    let next := offset + byteSize before + 2
    if isBound line next then some (inner ++ before, ⟨after, by omega⟩)
    else
      match wordEnd? line next (inner ++ before ++ ['?', '=']) after with
      | some (word, ⟨rest, h⟩) => some (word, ⟨rest, by omega⟩)
      | none => none
  termination_by rest.length

def piecesFrom (line : Array Char) (offset : Nat) (rest : List Char) : List Piece :=
  match h : cutPair? '=' '?' [] rest with
  | none => [textOrBlank rest]
  | some (before, after) =>
    have _shorter := cutPair?_length h
    let start := offset + byteSize before + 2
    if 3 ≤ start && !isBound line (start - 3) then
      .text (before ++ ['=', '?']) :: piecesFrom line start after
    else
      match wordEnd? line start [] after with
      | some (inner, ⟨next, _⟩) =>
        let piece := match decodeWord? inner with
          | some word => .word word
          | none => .text (['=', '?'] ++ inner ++ ['?', '='])
        textOrBlank before :: piece :: piecesFrom line (start + byteSize inner + 2) next
      | none => textOrBlank before :: .text ['=', '?'] :: piecesFrom line start after
  termination_by rest.length

def linePieces (line : List Char) : List Piece :=
  let line := Text.trimStart line
  piecesFrom line.toArray 0 line

def withoutReturn (line : List Char) : List Char :=
  if line.getLast? == some '\r' then line.dropLast else line

-- None follows a final line feed.
def lines (s : List Char) : List (List Char) :=
  let ls := s.splitOn '\n'
  let last := ls.getLastD []
  ls.dropLast.map withoutReturn ++ if last.isEmpty then [] else [last]

def pieces (s : List Char) : List Piece :=
  [Piece.lineBreak].intercalate ((lines s).map linePieces)

/-- What follows the last encoded word and is dropped if another one comes next. -/
inductive Held where
  | nothing
  | word
  | space (s : List Char)

def unfoldStep (state : Held × List FieldToken) (piece : Piece) : Held × List FieldToken :=
  let (held, out) := state
  match piece with
  | .text s =>
    let out := match held with
      | .space blank => .blank blank :: out
      | _ => out
    (.nothing, (s.map FieldToken.char).reverse ++ out)
  | .blank s =>
    match held with
    | .word => (.space s, out)
    | _ => (.nothing, .blank s :: out)
  | .lineBreak =>
    match held with
    | .word => (.space [' '], out)
    | .space s => (.space (s ++ [' ']), out)
    | .nothing => (.nothing, .blank [' '] :: out)
  | .word s => (.word, .word s :: out)

-- Blanks that follow the last encoded word are not part of it.
def tokens (s : List Char) : List FieldToken :=
  ((pieces s).foldl unfoldStep (.nothing, [])).2.reverse

def tokenText : FieldToken → List Char
  | .char c => [c]
  | .blank s | .word s => s

def value (s : List Char) : String :=
  String.ofList ((tokens s).flatMap tokenText)

end MailRelay.FieldText
