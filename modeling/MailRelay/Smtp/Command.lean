import MailRelay.Address.Mailbox
import MailRelay.Text.Ascii

set_option autoImplicit false

namespace MailRelay

inductive Command where
  | helo (host : String)
  | ehlo (host : String)
  -- The sender; none stands for the empty path.
  | mail (sender : Option String)
  | rcpt (recipient : String)
  | data
  | rset
  | noop
  | vrfy
  | quit
  | invalid (reason : String)
  deriving DecidableEq, Repr

namespace Command

def describe : Command → String
  | helo host => "HELO " ++ host
  | ehlo host => "EHLO " ++ host
  | mail sender => "MAIL FROM:<" ++ sender.getD "" ++ ">"
  | rcpt recipient => "RCPT TO:<" ++ recipient ++ ">"
  | data => "DATA"
  | rset => "RSET"
  | noop => "NOOP"
  | vrfy => "VRFY"
  | quit => "QUIT"
  | invalid reason => reason

-- What follows a blank is passed over.
def path? (argument : List Char) : Option String :=
  (Text.firstWord? argument).bind fun word => Mailbox.parse? (String.ofList word)

def after? (keyword : String) (line : List Char) : Option (List Char) :=
  let size := keyword.length
  if Text.sameLetters (String.ofList (line.take size)) keyword then
    some (Text.trim (line.drop size))
  else none

def ofMail (argument : List Char) : Command :=
  if Text.firstWord? argument = some ['<', '>'] then mail none
  else
    match path? argument with
    | some sender => mail (some sender)
    | none => invalid ("Invalid sender: " ++ String.ofList argument)

def ofRcpt (argument : List Char) : Command :=
  match path? argument with
  | some recipient => rcpt recipient
  | none => invalid ("Invalid recipient: " ++ String.ofList argument)

-- The argument follows the first blank.
def ofVerb (line : List Char) : Command :=
  let verb := Text.uppercase (String.ofList (line.takeWhile (· != ' ')))
  let argument := String.ofList (Text.trim (line.dropWhile (· != ' ')))
  let greet (command : String → Command) :=
    if argument.isEmpty then invalid ("Expected hostname in " ++ String.ofList line)
    else command argument
  match verb with
  | "HELO" => greet helo
  | "EHLO" => greet ehlo
  | "DATA" => data
  | "RSET" => rset
  | "NOOP" => noop
  | "VRFY" => vrfy
  | "QUIT" => quit
  | _ => invalid (String.ofList line)

def read (line : List Char) : Command :=
  let line := Text.trim line
  match after? "MAIL FROM:" line with
  | some argument => ofMail argument
  | none =>
    match after? "RCPT TO:" line with
    | some argument => ofRcpt argument
    | none => ofVerb line

end Command

end MailRelay
