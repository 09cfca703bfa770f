import MailRelay.Text.Unprintable

set_option autoImplicit false

namespace MailRelay.Text

def hexDigits (n : Nat) : String :=
  String.ofList (Nat.toDigits 16 n)

def byNumber (c : Char) : String :=
  "\\u\x7b" ++ hexDigits c.toNat ++ "\x7d"

def escapeChar (c : Char) : String :=
  match c with
  | '\t' => "\\t"
  | '\r' => "\\r"
  | '\n' => "\\n"
  | '\'' => "\\'"
  | '"' => "\\\""
  | '\\' => "\\\\"
  | c => if 0x20 ≤ c.toNat && c.toNat ≤ 0x7E then String.singleton c else byNumber c

def escaped (s : String) : String :=
  String.join (s.toList.map escapeChar)

def quoteChar (c : Char) : String :=
  match c with
  | '\x00' => "\\0"
  | '\t' => "\\t"
  | '\r' => "\\r"
  | '\n' => "\\n"
  | '"' => "\\\""
  | '\\' => "\\\\"
  | c => if isPrintable c then String.singleton c else byNumber c

def quoted (s : String) : String :=
  "\"" ++ String.join (s.toList.map quoteChar) ++ "\""

end MailRelay.Text
