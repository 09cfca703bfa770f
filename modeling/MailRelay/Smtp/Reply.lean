import MailRelay.Text.Ascii
import MailRelay.Text.Blank
import MailRelay.Text.Utf8

set_option autoImplicit false

namespace MailRelay

structure ReplyLine where
  code : Nat
  isLast : Bool
  text : String
  deriving DecidableEq, Repr

structure Reply where
  code : Nat
  lines : List String
  deriving DecidableEq, Repr

inductive ReplyError where
  | badCode (line : String)
  | badSeparator (c : Char)
  | mixedCodes (expected found : Nat)
  | tooLarge (max : Nat)
  | notText (e : Utf8.Malformed)
  deriving DecidableEq, Repr

def ReplyError.message : ReplyError → String
  | badCode line => "Invalid status code in '" ++ line ++ "'"
  | badSeparator c => "Invalid separator character: '" ++ String.singleton c ++ "'"
  | mixedCodes expected found =>
    s!"Status code mismatch in multi-line response: expected {expected}, got {found}"
  | tooLarge max => s!"Response too large (exceeds {max} bytes)"
  | notText e => e.message

namespace ReplyLine

def code? (hundreds tens units : Char) : Option Nat := do
  return 100 * (← Text.digit? hundreds) + 10 * (← Text.digit? tens) + (← Text.digit? units)

def firstByte (c : Char) : Char :=
  Char.ofNat (((String.utf8EncodeChar c).head?.map UInt8.toNat).getD 0)

def read (line : List Char) : Except ReplyError ReplyLine :=
  match line with
  | a :: b :: c :: rest =>
    match code? a b c with
    | some code =>
      match rest with
      | [] => .ok ⟨code, true, ""⟩
      | ' ' :: text => .ok ⟨code, true, String.ofList text⟩
      | '-' :: text => .ok ⟨code, false, String.ofList text⟩
      | other :: _ => .error (.badSeparator (firstByte other))
    | none => .error (.badCode (String.ofList line))
  | _ => .error (.badCode (String.ofList line))

-- The text of a line as it was sent, without the carriage returns before its line feed.
def decode (raw : Bytes) : Except ReplyError (List Char) :=
  match Utf8.decode raw with
  | .ok text => .ok (text.reverse.dropWhile (· == '\r')).reverse
  | .error e => .error (.notText e)

end ReplyLine

namespace Reply

def message (r : Reply) : String :=
  String.intercalate "\n" r.lines

def describe (r : Reply) : String :=
  s!"{r.code} " ++ String.intercalate " / " r.lines

def isSuccess (r : Reply) : Bool :=
  200 ≤ r.code && r.code < 300

def isIntermediate (r : Reply) : Bool :=
  300 ≤ r.code && r.code < 400

def supports (r : Reply) (keyword : String) : Bool :=
  (r.lines.drop 1).any fun line =>
    match Text.firstWord? line.toList with
    | some word => Text.sameLetters (String.ofList word) keyword
    | none => false

def writeLines (code : Nat) : List String → String
  | [] => ""
  | [line] => s!"{code} " ++ line ++ "\r\n"
  | line :: rest => s!"{code}-" ++ line ++ "\r\n" ++ writeLines code rest

def write (r : Reply) : String :=
  writeLines r.code r.lines

def checkCode (expected : Option Nat) (found : Nat) : Except ReplyError Unit :=
  match expected with
  | some code => if code = found then .ok () else .error (.mixedCodes code found)
  | none => .ok ()

def isLineFeed (b : UInt8) : Bool :=
  b == 10

-- The lines `texts` have the last one first.
def readAfter (code : Option Nat) (texts : List String) (used : Nat) (bytes : Bytes) :
    Except ReplyError (Option (Reply × Nat)) :=
  let raw := bytes.takeWhile fun b => !isLineFeed b
  match _h : bytes.dropWhile fun b => !isLineFeed b with
  | [] => .ok none
  | _ :: rest => do
    let used := used + raw.length + 1
    let text ← ReplyLine.decode raw
    if text.isEmpty then readAfter code texts used rest
    else
      let line ← ReplyLine.read text
      checkCode code line.code
      if line.isLast then .ok (some (⟨line.code, (line.text :: texts).reverse⟩, used))
      else readAfter (some line.code) (line.text :: texts) used rest
  termination_by bytes.length
  decreasing_by
    all_goals
      have shorter := (List.dropWhile_sublist (fun b => !isLineFeed b) (l := bytes)).length_le
      rw [_h] at shorter
      simp only [List.length_cons] at shorter
      omega

/-- The reply at the front of `bytes` and its size; nothing while its last line is incomplete. Lines
that hold nothing are passed over. -/
def read (bytes : Bytes) : Except ReplyError (Option (Reply × Nat)) :=
  readAfter none [] 0 bytes

end Reply

end MailRelay
