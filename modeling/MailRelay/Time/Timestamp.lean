import MailRelay.Text.Blank
import MailRelay.Time.Instant

set_option autoImplicit false

namespace MailRelay.Timestamp

-- Four digits, or a sign and at least four digits outside the years 0 to 9999.
def yearText (year : Int) : String :=
  if 0 ≤ year && year ≤ 9999 then Text.padded 4 year.toNat
  else (if year < 0 then "-" else "+") ++ Text.padded 4 year.natAbs

-- The fewest of 0, 3, 6 or 9 places that lose nothing.
def fractionText (nanos : Nat) : String :=
  if nanos == 0 then ""
  else if nanos % 1000000 == 0 then "." ++ Text.padded 3 (nanos / 1000000)
  else if nanos % 1000 == 0 then "." ++ Text.padded 6 (nanos / 1000)
  else "." ++ Text.padded 9 nanos

def clockText (t : Instant) : String :=
  let (hour, minute, second) := t.clock
  Text.padded 2 hour ++ ":" ++ Text.padded 2 minute ++ ":" ++ Text.padded 2 second

def write (t : Instant) : String :=
  let date := t.civil.1
  yearText date.year ++ "-" ++ Text.padded 2 date.month ++ "-" ++ Text.padded 2 date.day
    ++ "T" ++ clockText t ++ fractionText (t.nanos % 1000000000) ++ "Z"

def writeMailDate (t : Instant) : String :=
  let date := t.civil.1
  Date.weekday (t.seconds / 86400) ++ ", " ++ Text.padded 2 date.day ++ " " ++ date.monthName ++ " "
    ++ yearText date.year ++ " " ++ clockText t ++ " +0000"

def digits? (most : Nat) (s : List Char) : Option (List Char × List Char) :=
  let digits := (s.take most).takeWhile Char.isDigit
  if digits.isEmpty then none else some (digits, s.drop digits.length)

def value (digits : List Char) : Nat :=
  (Text.natural? digits).getD 0

def field? (low high : Nat) (s : List Char) : Option (Nat × List Char) := do
  let (digits, rest) ← digits? 2 (Text.trimStart s)
  let n := value digits
  if low ≤ n && n ≤ high then some (n, rest) else none

def year? (s : List Char) : Option (Int × List Char) :=
  match Text.trimStart s with
  | '-' :: rest => (digits? rest.length rest).map fun (ds, rest) => (-(value ds : Int), rest)
  | '+' :: rest => (digits? rest.length rest).map fun (ds, rest) => ((value ds : Int), rest)
  | rest => (digits? 4 rest).map fun (ds, rest) => ((value ds : Int), rest)

def expect? (c : Char) (s : List Char) : Option (List Char) :=
  match Text.trimStart s with
  | d :: rest => if d == c then some rest else none
  | [] => none

-- Digits beyond the ninth are dropped.
def fraction? (s : List Char) : Option (Nat × List Char) :=
  match s with
  | '.' :: rest => do
    let (ds, more) ← digits? 9 rest
    some (value ds * Nat.pow 10 (9 - ds.length), more.dropWhile Char.isDigit)
  | _ => some (0, s)

def offset? (s : List Char) : Option (Int × List Char) :=
  match s with
  | 'Z' :: rest | 'z' :: rest => some (0, rest)
  | sign :: rest =>
    if sign == '+' || sign == '-' || sign == '\u2212' then
      match rest with
      | h₁ :: h₂ :: rest => do
        let hour ← Text.natural? [h₁, h₂]
        match rest.dropWhile fun c => c == ':' || Text.isBlank c with
        | m₁ :: m₂ :: rest =>
          let minute ← Text.natural? [m₁, m₂]
          if hour < 24 && minute < 60 then
            let size : Int := hour * 60 + minute
            some (if sign == '+' then size else -size, rest)
          else none
        | _ => none
      | _ => none
    else
      match s with
      | u :: t :: c :: rest =>
        if u.toLower == 'u' && t.toLower == 't' && c.toLower == 'c' then some (0, rest) else none
      | _ => none
  | [] => none

/-- Reads a timestamp with any offset. Blanks may stand before every part, the date and the time may
be parted by one blank, and second 60 is a leap second. -/
def read? (s : List Char) : Option Instant := do
  let (year, s) ← year? s
  let s ← expect? '-' s
  let (month, s) ← field? 1 12 s
  let s ← expect? '-' s
  let (day, s) ← field? 1 31 s
  let s ← match s with
    | 'T' :: rest | 't' :: rest | ' ' :: rest => some rest
    | _ => none
  let (hour, s) ← field? 0 23 s
  let s ← expect? ':' s
  let (minute, s) ← field? 0 59 s
  let s ← expect? ':' s
  let (second, s) ← field? 0 60 s
  let (nanos, s) ← fraction? s
  let (offset, s) ← offset? (Text.trimStart s)
  let date ← Date.exists? year month day
  if !(Text.trimStart s).isEmpty then none
  else
    let leap := second == 60
    let seconds := date.toDays * 86400 + (hour * 3600 + minute * 60 : Nat) - offset * 60
    if leap then Instant.of? (seconds + 59) (nanos + 1000000000)
    else Instant.of? (seconds + second) nanos

end MailRelay.Timestamp
