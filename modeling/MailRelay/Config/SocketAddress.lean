import MailRelay.Text.Ascii

set_option autoImplicit false

namespace MailRelay

inductive SocketAddress where
  | v4 (octets : List Nat) (port : Nat)
  | v6 (groups : List Nat) (scope port : Nat)
  deriving DecidableEq, Repr

namespace SocketAddress

def valueOf (base : Nat) (digits : List Char) : Nat :=
  digits.foldl (fun n c => base * n + (Text.hexDigit? c).getD 0) 0

def isDigitOf (base : Nat) (c : Char) : Bool :=
  match Text.hexDigit? c with
  | some d => d < base
  | none => false

def number? (base bound : Nat) (most : Option Nat) (s : List Char) : Option (Nat × List Char) :=
  let digits := s.takeWhile (isDigitOf base)
  let n := valueOf base digits
  if digits.isEmpty || bound ≤ n || most.any (· < digits.length) then none
  else some (n, s.drop digits.length)

def octet? (s : List Char) : Option (Nat × List Char) :=
  match s with
  | '0' :: c :: _ => if c.isDigit then none else number? 10 256 (some 3) s
  | _ => number? 10 256 (some 3) s

def char? (c : Char) (s : List Char) : Option (List Char) :=
  match s with
  | d :: rest => if d == c then some rest else none
  | [] => none

def octets? (s : List Char) : Option (List Nat × List Char) := do
  let (a, s) ← octet? s
  let (b, s) ← octet? (← char? '.' s)
  let (c, s) ← octet? (← char? '.' s)
  let (d, s) ← octet? (← char? '.' s)
  return ([a, b, c, d], s)

def port? (s : List Char) : Option (Nat × List Char) := do
  number? 10 65536 none (← char? ':' s)

def afterColon? (first : Bool) (s : List Char) : Option (List Char) :=
  if first then some s else char? ':' s

/-- Up to `limit` groups. The last two may be given as an address of the earlier version, and the
flag says that they are. -/
def groups (first : Bool) : (limit : Nat) → List Char → List Nat × Bool × List Char
  | 0, s => ([], false, s)
  | limit + 1, s =>
    match (if limit == 0 then none else (afterColon? first s).bind octets?) with
    | some ([a, b, c, d], rest) => ([a * 256 + b, c * 256 + d], true, rest)
    | _ =>
      match (afterColon? first s).bind (number? 16 65536 (some 4)) with
      | some (n, rest) =>
        let (more, embedded, rest) := groups false limit rest
        (n :: more, embedded, rest)
      | none => ([], false, s)

def allGroups? (s : List Char) : Option (List Nat × List Char) :=
  let (head, embedded, s) := groups true 8 s
  if head.length == 8 then some (head, s)
  else if embedded then none
  else do
    let s ← char? ':' (← char? ':' s)
    let (tail, _, s) := groups true (7 - head.length) s
    return (head ++ List.replicate (8 - head.length - tail.length) 0 ++ tail, s)

def v4? (s : List Char) : Option (SocketAddress × List Char) := do
  let (octets, s) ← octets? s
  let (port, s) ← port? s
  return (v4 octets port, s)

def v6? (s : List Char) : Option (SocketAddress × List Char) := do
  let (groups, s) ← allGroups? (← char? '[' s)
  let (scope, s) ← match s with
    | '%' :: rest => number? 10 4294967296 none rest
    | _ => some (0, s)
  let (port, s) ← port? (← char? ']' s)
  return (v6 groups scope port, s)

def read? (text : String) : Option SocketAddress :=
  match (v4? text.toList).orElse fun _ => v6? text.toList with
  | some (address, []) => some address
  | _ => none

def octetsText (octets : List Nat) : String :=
  String.intercalate "." (octets.map Nat.repr)

def hex (n : Nat) : String :=
  String.ofList (Nat.toDigits 16 n)

-- The first of the longest runs of zeros: its start and its length. The groups begin at `index`,
-- and `run` zeros stand directly before them.
def longestRun (index run : Nat) (best : Nat × Nat) : List Nat → Nat × Nat
  | [] => best
  | g :: rest =>
    if g == 0 then
      let run := run + 1
      longestRun (index + 1) run (if best.2 < run then (index + 1 - run, run) else best) rest
    else longestRun (index + 1) 0 best rest

def groupsText (groups : List Nat) : String :=
  match groups with
  | [0, 0, 0, 0, 0, 0xFFFF, a, b] =>
    "::ffff:" ++ octetsText [a / 256, a % 256, b / 256, b % 256]
  | _ =>
    let (start, length) := longestRun 0 0 (0, 0) groups
    let join (l : List Nat) := String.intercalate ":" (l.map hex)
    if length ≤ 1 then join groups
    else join (groups.take start) ++ "::" ++ join (groups.drop (start + length))

def text : SocketAddress → String
  | v4 octets port => s!"{octetsText octets}:{port}"
  | v6 groups scope port =>
    "[" ++ groupsText groups ++ (if scope == 0 then "" else s!"%{scope}") ++ s!"]:{port}"

end SocketAddress

end MailRelay
