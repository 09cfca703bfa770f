import MailRelay.Text.Ascii

set_option autoImplicit false

namespace MailRelay

inductive LogLevel where
  | off
  | error
  | warn
  | info
  | debug
  | trace
  deriving DecidableEq, Repr

namespace LogLevel

def name : LogLevel → String
  | off => "off"
  | error => "error"
  | warn => "warn"
  | info => "info"
  | debug => "debug"
  | trace => "trace"

def all : List LogLevel := [off, error, warn, info, debug, trace]

def ofText (s : String) : LogLevel :=
  if s.isEmpty then error
  else
    match (Text.unsigned? 18446744073709551616 s.toList).bind (all[·]?) with
    | some level => level
    | none => (all.find? fun level => Text.sameLetters level.name s).getD info

-- The level of the environment goes before the configured one.
def effective (environment : Option String) (configured : String) : LogLevel :=
  ofText (environment.getD configured)

end LogLevel

end MailRelay
