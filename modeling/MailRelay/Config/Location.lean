import MailRelay.Config.Basic

set_option autoImplicit false

namespace MailRelay

inductive LocateError where
  | givenMissing (path : String)
  | variableMissing (path : String)
  | noneFound
  deriving DecidableEq, Repr

namespace Config

def pathVariable : String := "OUTPOST_CONFIG"

def usualPaths : List String := ["./outpost.config.ron", "/etc/outpost/outpost.config.ron"]

def locate (exists? : String → Bool) (given environment : Option String) :
    Except LocateError String :=
  match given, environment with
  | some path, _ => if exists? path then .ok path else .error (.givenMissing path)
  | none, some path => if exists? path then .ok path else .error (.variableMissing path)
  | none, none =>
    match usualPaths.find? exists? with
    | some path => .ok path
    | none => .error .noneFound

end Config

def LocateError.message : LocateError → String
  | givenMissing path => "Config file does not exist: " ++ path
  | variableMissing path => Config.pathVariable ++ " points to non-existent file: " ++ path
  | noneFound =>
    "No configuration file found. Tried:\n  - --config flag\n  - " ++ Config.pathVariable
      ++ " environment variable\n" ++ String.intercalate "\n" (Config.usualPaths.map ("  - " ++ ·))

end MailRelay
