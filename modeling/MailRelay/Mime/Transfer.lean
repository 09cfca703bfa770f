import MailRelay.Text.Ascii
import MailRelay.Text.Blank
import MailRelay.Text.Utf8

set_option autoImplicit false

namespace MailRelay

-- Base 64: four characters for three bytes, with equals signs in place of missing ones.
namespace Base64

def value? (b : UInt8) : Option Nat :=
  if 65 ≤ b && b ≤ 90 then some (b.toNat - 65)
  else if 97 ≤ b && b ≤ 122 then some (b.toNat - 97 + 26)
  else if 48 ≤ b && b ≤ 57 then some (b.toNat - 48 + 52)
  else if b == 43 then some 62
  else if b == 47 then some 63
  else none

def pad : UInt8 := 61

-- The bits that padding leaves over may have any value.
def group? (a b c d : UInt8) : Option Bytes := do
  let x ← value? a
  let y ← value? b
  let first := UInt8.ofNat (x * 4 + y / 16)
  if c == pad && d == pad then return [first]
  let z ← value? c
  let second := UInt8.ofNat (y % 16 * 16 + z / 4)
  if d == pad then return [first, second]
  let w ← value? d
  return [first, second, UInt8.ofNat (z % 4 * 64 + w)]

-- Padded groups may stand anywhere.
def decodeAfter? (read : Bytes) : Bytes → Option Bytes
  | a :: b :: c :: d :: rest =>
    match group? a b c d with
    | some bytes => decodeAfter? (bytes.reverse ++ read) rest
    | none => none
  | [] => some read.reverse
  | _ => none

def decode? (text : Bytes) : Option Bytes :=
  decodeAfter? [] text

end Base64

-- Quoted text: an equals sign and two hexadecimal digits for a byte, or an equals sign at the end
-- of a line that goes on in the next.
namespace QuotedText

def isKept (b : UInt8) : Bool :=
  b == 9 || b == 10 || b == 13 || (32 ≤ b && b ≤ 126)

def isBlank (b : UInt8) : Bool :=
  b == 9 || b == 13 || b == 32

def escape : UInt8 := 61

def hex? (b : UInt8) : Option Nat :=
  Text.hexDigit? (Char.ofNat b.toNat)

/-- Decodes one line after the bytes `read`, the last one first; the flag says whether the line ends
there. -/
def decodeLine (read : Bytes) : Bytes → Bytes × Bool
  | [] => (read, true)
  | b :: rest =>
    if b != escape then decodeLine (b :: read) rest
    else
      match rest with
      | [] => (read, false)
      | [c] => (c :: escape :: read, true)
      | c :: d :: rest =>
        match hex? c, hex? d with
        | some x, some y => decodeLine (UInt8.ofNat (x * 16 + y) :: read) rest
        | _, _ => decodeLine (d :: c :: escape :: read) rest

def trimEnd (line : Bytes) : Bytes :=
  (line.reverse.dropWhile isBlank).reverse

-- Decodes the lines, all but the last of which had a line feed.
def decodeLines (read : Bytes) : List Bytes → Bytes
  | [] => read.reverse
  | [line] => (decodeLine read (trimEnd line)).1.reverse
  | line :: rest =>
    match decodeLine read (trimEnd line) with
    | (read, true) => decodeLines (10 :: 13 :: read) rest
    | (read, false) => decodeLines read rest

def splitLines (bytes : Bytes) : List Bytes :=
  bytes.splitOn 10

def decode (text : Bytes) : Bytes :=
  decodeLines [] (splitLines (text.filter isKept))

end QuotedText

inductive TransferEncoding where
  | asIs
  | base64
  | quoted
  deriving DecidableEq, Repr

namespace TransferEncoding

-- Content under any other name is taken as it is.
def ofName (name : String) : TransferEncoding :=
  match Text.lowercase name with
  | "base64" => base64
  | "quoted-printable" => quoted
  | _ => asIs

def isSpacing (b : UInt8) : Bool :=
  b == 9 || b == 10 || b == 12 || b == 13 || b == 32

def decode? (encoding : TransferEncoding) (content : Bytes) : Option Bytes :=
  match encoding with
  | asIs => some content
  | base64 => Base64.decode? (content.filter fun b => !isSpacing b)
  | quoted => some (QuotedText.decode content)

end TransferEncoding

end MailRelay
