import Breadboard.Data.Value
import Breadboard.Data.Yaml.Fault
import Breadboard.Data.Yaml.Kind
import Breadboard.Text.Base64

/-! What YAML scalars of each kind are worth. -/

namespace Breadboard.Yaml

def orBad {α : Type} : Option α → Reading α
  | some x => .ok x
  | none => .error .badNumber

def noUnderscores (s : Text) : Text := s.filter (· ≠ .char '_')

def sixtieths (s : Text) : List Text := Text.splitAt (.char ':') s

def integerPart (s : Text) : Reading Int := orBad (readInteger s).toOption

/-- An integer without its sign; the base is told by how it begins. -/
def magnitude (s : Text) : Reading Int :=
  match s with
  | [] => .error .noNumber
  | .char '0' :: .char 'b' :: r => orBad (readIntegerIn? 2 'b' r)
  | .char '0' :: .char 'x' :: r => orBad (readIntegerIn? 16 'x' r)
  | .char '0' :: r => orBad (readIntegerIn? 8 'o' (.char '0' :: r))
  | s => do
      let parts ← (sixtieths s).mapM integerPart
      return parts.foldl (fun n part => 60 * n + part) 0

def integer (s : Text) : Reading Int := do
  let (negative, s) := Numeral.takeSign (noUnderscores s)
  let n ← magnitude s
  return if negative then -n else n

/-- Parts to the base sixty added up from the last, which is worth `worth`. -/
def addSixtieths (total : Float) (worth : Nat) : List Float → Reading Float
  | [] => .ok total
  | x :: rest =>
      match floatOfInt? worth with
      | some w => addSixtieths (total + x * w) (worth * 60) rest
      | none => .error .tooLarge

def isNotNumber (s : Text) : Bool :=
  (Numeral.takeSign ((noUnderscores s).map CodePoint.lower)).2 = text ".nan"

def float (s : Text) : Reading Float := do
  let s := (noUnderscores s).map CodePoint.lower
  if s.isEmpty then throw .noNumber
  let (negative, s) := Numeral.takeSign s
  let sign : Float := if negative then -1.0 else 1.0
  if s = text ".inf" then return nearestFloat negative (Nat.pow 2 1100) 1
  else if s = text ".nan" then return .ofBits 0x7FF8000000000000
  else
    match ← (sixtieths s).mapM fun part => orBad (readFloat? part) with
    | [x] => return sign * x
    | parts => return sign * (← addSixtieths 0.0 1 parts.reverse)

def truth (s : Text) : Reading Bool :=
  let isOne (words : List String) : Bool := words.any fun w => text w = s.lower
  if isOne ["yes", "true", "on"] then .ok true
  else if isOne ["no", "false", "off"] then .ok false
  else .error .badWord

def moment (s : Text) : Reading Moment :=
  match Timestamp.read? (Kind.dropBreak s) with
  | none => .error .badMoment
  | some m => if m.isReal then .ok m else .error .badNumber

def binary (s : Text) : Reading Bytes :=
  match if s.all CodePoint.isAscii then Base64.decode? s else none with
  | some data => .ok data
  | none => .error .malformed

end Breadboard.Yaml
