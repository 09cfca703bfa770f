set_option autoImplicit false

namespace MailRelay.Text

def lowercase (s : String) : String :=
  String.ofList (s.toList.map Char.toLower)

def uppercase (s : String) : String :=
  String.ofList (s.toList.map Char.toUpper)

def sameLetters (s t : String) : Bool :=
  lowercase s == lowercase t

def isGraphic (c : Char) : Bool :=
  0x21 ≤ c.toNat && c.toNat ≤ 0x7E

def hasLineBreak (s : String) : Bool :=
  s.toList.any fun c => c == '\r' || c == '\n'

def dropFront? (front s : List Char) : Option (List Char) :=
  if front.isPrefixOf s then some (s.drop front.length) else none

def digit? (c : Char) : Option Nat :=
  if c.isDigit then some (c.toNat - '0'.toNat) else none

def hexDigit? (c : Char) : Option Nat :=
  let n := c.toNat
  if '0'.toNat ≤ n && n ≤ '9'.toNat then some (n - '0'.toNat)
  else if 'a'.toNat ≤ n && n ≤ 'f'.toNat then some (n - 'a'.toNat + 10)
  else if 'A'.toNat ≤ n && n ≤ 'F'.toNat then some (n - 'A'.toNat + 10)
  else none

-- The empty string has none.
def natural? (s : List Char) : Option Nat :=
  if s.isEmpty then none
  else s.foldl (fun n c => n.bind fun n => (digit? c).map (10 * n + ·)) (some 0)

-- One leading plus sign is allowed.
def unsigned? (bound : Nat) (s : List Char) : Option Nat :=
  let digits := match s with
    | '+' :: rest => rest
    | _ => s
  (natural? digits).filter (· < bound)

def padded (width n : Nat) : String :=
  let digits := n.repr
  String.ofList (List.replicate (width - digits.length) '0') ++ digits

end MailRelay.Text
