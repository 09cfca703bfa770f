import MailRelay.Text.Utf8

set_option autoImplicit false

namespace MailRelay

namespace Payload

def addToLines (c : Char) (lines : List (List Char)) : List (List Char) :=
  if c == '\n' then [] :: lines
  else
    match lines with
    | [] => [[c]]
    | line :: rest => (c :: line) :: rest

-- No line follows a final line feed.
def lines (text : List Char) : List (List Char) :=
  text.foldr addToLines []

def withoutReturn (line : List Char) : List Char :=
  if line.getLast? = some '\r' then line.dropLast else line

def stuffLine (line : List Char) : List Char :=
  let line := withoutReturn line
  (if line.head? = some '.' then ['.'] else []) ++ line ++ ['\r', '\n']

-- Every line ends in a carriage return and a line feed, and there is at least one line.
def stuff (text : String) : String :=
  match lines text.toList with
  | [] => "\r\n"
  | ls => String.ofList (ls.flatMap stuffLine)

def terminator : String := ".\r\n"

def send (text : String) : Bytes :=
  Utf8.ofString (stuff text ++ terminator)

def dot : UInt8 := 46

def isEnd (line : Bytes) : Bool :=
  line == [dot, 13, 10] || line == [dot, 10]

/-- The content of a received line: of two leading dots one was added for the transfer. -/
def unstuff (line : Bytes) : Bytes :=
  match line with
  | a :: b :: rest => if a == dot && b == dot then b :: rest else line
  | _ => line

end Payload

/-- Content taken in so far. Once a line did not fit, nothing more is kept. -/
structure Incoming where
  data : Array UInt8
  oversized : Bool
  deriving DecidableEq

namespace Incoming

def empty : Incoming := ⟨#[], false⟩

def add (limit : Nat) (i : Incoming) (line : Bytes) : Incoming :=
  let content := Payload.unstuff line
  if limit < i.data.size + content.length then { i with oversized := true }
  else if i.oversized then i
  else { i with data := i.data ++ content }

end Incoming

end MailRelay
