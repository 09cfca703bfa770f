set_option autoImplicit false

namespace MailRelay

abbrev Bytes := List UInt8

namespace Utf8

def encode (s : List Char) : Bytes :=
  s.flatMap String.utf8EncodeChar

def ofString (s : String) : Bytes :=
  s.toUTF8.data.toList

structure Lead where
  tail : Nat
  low : UInt8
  high : UInt8

def lead? (b : UInt8) : Option Lead :=
  if 0xC2 ≤ b && b ≤ 0xDF then some ⟨1, 0x80, 0xBF⟩
  else if b == 0xE0 then some ⟨2, 0xA0, 0xBF⟩
  else if 0xE1 ≤ b && b ≤ 0xEC then some ⟨2, 0x80, 0xBF⟩
  else if b == 0xED then some ⟨2, 0x80, 0x9F⟩
  else if 0xEE ≤ b && b ≤ 0xEF then some ⟨2, 0x80, 0xBF⟩
  else if b == 0xF0 then some ⟨3, 0x90, 0xBF⟩
  else if 0xF1 ≤ b && b ≤ 0xF3 then some ⟨3, 0x80, 0xBF⟩
  else if b == 0xF4 then some ⟨3, 0x80, 0x8F⟩
  else none

def isTail (b : UInt8) : Bool :=
  0x80 ≤ b && b ≤ 0xBF

def payload (b : UInt8) : Nat :=
  b.toNat % 64

-- The outcome of reading one character; `size` counts bytes, the first one included.
inductive Scan where
  | character (c : Char) (size : Nat)
  | malformed (size : Nat)
  | truncated

def scan (b : UInt8) (rest : Bytes) : Scan :=
  if b < 0x80 then .character (Char.ofNat b.toNat) 1
  else
    match lead? b with
    | none => .malformed 1
    | some lead =>
      match rest with
      | [] => .truncated
      | b₁ :: rest =>
        if !(lead.low ≤ b₁ && b₁ ≤ lead.high) then .malformed 1
        else if lead.tail == 1 then
          .character (Char.ofNat (b.toNat % 32 * 64 + payload b₁)) 2
        else
          match rest with
          | [] => .truncated
          | b₂ :: rest =>
            if !isTail b₂ then .malformed 2
            else if lead.tail == 2 then
              .character (Char.ofNat (b.toNat % 16 * 4096 + payload b₁ * 64 + payload b₂)) 3
            else
              match rest with
              | [] => .truncated
              | b₃ :: _ =>
                if !isTail b₃ then .malformed 3
                else
                  .character (Char.ofNat (b.toNat % 8 * 262144 + payload b₁ * 4096
                    + payload b₂ * 64 + payload b₃)) 4

structure Malformed where
  index : Nat
  length : Option Nat
  deriving DecidableEq, Repr

def Malformed.message (e : Malformed) : String :=
  match e.length with
  | some n => s!"invalid utf-8 sequence of {n} bytes from index {e.index}"
  | none => s!"incomplete utf-8 byte sequence from index {e.index}"

-- The characters `read` have the last one first.
def decodeAfter (read : List Char) (index : Nat) (bytes : Bytes) : Except Malformed (List Char) :=
  match bytes with
  | [] => .ok read.reverse
  | b :: rest =>
    match scan b rest with
    | .character c size => decodeAfter (c :: read) (index + size) (rest.drop (size - 1))
    | .malformed size => .error ⟨index, some size⟩
    | .truncated => .error ⟨index, none⟩
  termination_by bytes.length
  decreasing_by simp only [List.length_drop, List.length_cons]; omega

def decode (bytes : Bytes) : Except Malformed (List Char) :=
  decodeAfter [] 0 bytes

def replacement : Char := '\uFFFD'

def decodeLossyAfter (read : List Char) (bytes : Bytes) : List Char :=
  match bytes with
  | [] => read.reverse
  | b :: rest =>
    match scan b rest with
    | .character c size => decodeLossyAfter (c :: read) (rest.drop (size - 1))
    | .malformed size => decodeLossyAfter (replacement :: read) (rest.drop (size - 1))
    | .truncated => (replacement :: read).reverse
  termination_by bytes.length
  decreasing_by all_goals simp only [List.length_drop, List.length_cons]; omega

def decodeLossy (bytes : Bytes) : List Char :=
  decodeLossyAfter [] bytes

end Utf8

def latin1 (bytes : Bytes) : List Char :=
  bytes.map fun b => Char.ofNat b.toNat

end MailRelay
