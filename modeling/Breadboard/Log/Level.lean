import Breadboard.Data.Dict
import Breadboard.Text.Case

/-! How much is logged, and where to. -/

namespace Breadboard

abbrev Environment := Dict Text

inductive LogLevel where
  | critical
  | error
  | warning
  | info
  | debug
  deriving DecidableEq, Repr

structure LogSetup where
  level : LogLevel
  file : Option Text
  deriving DecidableEq

namespace LogLevel

def all : List LogLevel := [critical, error, warning, info, debug]

def name : LogLevel → String
  | critical => "CRITICAL"
  | error => "ERROR"
  | warning => "WARNING"
  | info => "INFO"
  | debug => "DEBUG"

def toNat : LogLevel → Nat
  | critical => 50
  | error => 40
  | warning => 30
  | info => 20
  | debug => 10

def named? (s : Text) : Option LogLevel := all.find? fun l => text l.name = s

def askedBy : Text := text "JUMPERLESS_VERBOSITY"

/-- The name of the level that the environment asks for, in capitals, and a warning if it is the
name of none; then it is the default as it stands. -/
def requested (env : Environment) (default : Text) : Text × Option Text :=
  let asked := ((env.get? askedBy).getD default).upper
  if (named? asked).isSome then (asked, none)
  else (default, some (text "Warning: Invalid " ++ askedBy ++ text " '" ++ asked ++
    text "', using '" ++ default ++ text "'"))

end LogLevel

namespace LogSetup

def of (env : Environment) (verbose : Bool) (file : Option Text) : LogSetup × Option Text :=
  let (name, warning) := LogLevel.requested env (text LogLevel.info.name)
  let file := file.filter (!·.isEmpty)
  if verbose then (⟨.debug, file⟩, none)
  else (⟨(LogLevel.named? name).getD .info, file⟩, warning)

def handlers (s : LogSetup) : Nat := if s.file.isSome then 2 else 1

end LogSetup

end Breadboard
