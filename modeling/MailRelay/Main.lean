import MailRelay.Config.Location
import MailRelay.Config.Record

set_option autoImplicit false

namespace MailRelay

structure Arguments where
  config : Option String
  checkOnly : Bool
  deriving DecidableEq, Repr

namespace Arguments

def none : Arguments := ⟨.none, false⟩

def joined? (names : List String) (argument : String) : Option String :=
  names.findSome? fun name =>
    (Text.dropFront? name.toList argument.toList).map String.ofList

def add (a : Arguments) : List String → Except String Arguments
  | [] => .ok a
  | "--check" :: rest => { a with checkOnly := true }.add rest
  | "--config" :: path :: rest | "-c" :: path :: rest => { a with config := some path }.add rest
  | argument :: rest =>
    match joined? ["--config=", "-c"] argument with
    | some path => if path.isEmpty then .error argument else { a with config := some path }.add rest
    | .none => .error argument

end Arguments

def usage : String := "Usage: outpost [OPTIONS]"

def runWith (a : Arguments) (path : String) (content : String) : Except String String := do
  let config ← (Config.ofText content).mapError ConfigError.message
  config.validate |>.mapError ConfigError.message
  if a.checkOnly then return path ++ ": OK"
  else throw "No connections can be made here; use --check"

end MailRelay

open MailRelay in
def main (arguments : List String) : IO UInt32 := do
  let read (path : String) := (IO.FS.readFile path).toBaseIO
  let known (path : String) : IO Bool := do
    match ← read path with
    | .error (.noFileOrDirectory ..) => return false
    | _ => return true
  match Arguments.none.add arguments with
  | .error argument =>
    IO.eprintln ("error: unexpected argument '" ++ argument ++ "' found\n\n" ++ usage)
    return 2
  | .ok a =>
    let environment ← IO.getEnv Config.pathVariable
    let candidates := a.config.toList ++ environment.toList ++ Config.usualPaths
    let found ← candidates.filterM known
    match Config.locate found.contains a.config environment with
    | .error e =>
      IO.eprintln ("Error: " ++ e.message)
      return 1
    | .ok path =>
      let content ← read path
      let content := content.mapError fun e => ConfigError.message (.unreadable path e.toString)
      match content.bind (runWith a path) with
      | .ok line =>
        IO.println line
        return 0
      | .error e =>
        IO.eprintln ("Error: " ++ e)
        return 1
