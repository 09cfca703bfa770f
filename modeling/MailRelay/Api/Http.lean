import MailRelay.Json.Basic
import MailRelay.Text.Ascii
import MailRelay.Text.Utf8

set_option autoImplicit false

namespace MailRelay

-- Header values are without the blanks at their ends.
structure HttpRequest where
  method : String
  target : String
  authorization : Option Bytes
  contentType : Option Bytes
  body : Bytes

inductive HttpBody where
  | empty
  | json (j : Json)
  | text (s : String)

structure HttpResponse where
  status : Nat
  body : HttpBody

namespace HttpResponse

def json (status : Nat) (j : Json) : HttpResponse := ⟨status, .json j⟩

def error (status : Nat) (message : String) : HttpResponse :=
  json status (.object [("error", .string message)])

def notFound : HttpResponse := ⟨404, .empty⟩
def methodNotAllowed : HttpResponse := ⟨405, .empty⟩

end HttpResponse

namespace HeaderValue

def isBlank (b : UInt8) : Bool := b == 32 || b == 9

def trim (v : Bytes) : Bytes :=
  ((v.dropWhile isBlank).reverse.dropWhile isBlank).reverse

def text? (v : Bytes) : Option String :=
  if v.all fun b => (32 ≤ b && b < 127) || b == 9 then some (String.ofList (latin1 v)) else none

end HeaderValue

inductive Route where
  | send
  | sendBatch
  | status (segment : String)
  | stats
  | health
  deriving DecidableEq, Repr

namespace Route

def path (target : String) : List Char :=
  target.toList.takeWhile fun c => c != '?' && c != '#'

-- A segment is not decoded before it is known to be the right one.
def ofTarget? (target : String) : Option Route :=
  match (path target).splitOn '/' with
  | [[], first] =>
    match String.ofList first with
    | "send" => some send
    | "stats" => some stats
    | "health" => some health
    | _ => none
  | [[], first, second] =>
    match String.ofList first, second with
    | "send", _ => if second == "batch".toList then some sendBatch else none
    | "status", _ :: _ => some (status (String.ofList second))
    | _, _ => none
  | _ => none

def isProtected : Route → Bool
  | health => false
  | _ => true

def allows (r : Route) (method : String) : Bool :=
  match r with
  | send | sendBatch => method == "POST"
  | status _ | stats | health => method == "GET" || method == "HEAD"

-- A percent sign that no two hexadecimal digits follow stands for itself.
def decodePercent : List Char → Bytes
  | '%' :: a :: b :: rest =>
    match Text.hexDigit? a, Text.hexDigit? b with
    | some x, some y => UInt8.ofNat (16 * x + y) :: decodePercent rest
    | _, _ => Utf8.encode ['%'] ++ decodePercent (a :: b :: rest)
  | c :: rest => Utf8.encode [c] ++ decodePercent rest
  | [] => []

end Route

end MailRelay
