import Breadboard.Board.Basic
import Breadboard.Config.Duration
import Breadboard.Config.Key
import Breadboard.Response.Basic

/-! A configuration, why data is none, and the readings of single values. -/

namespace Breadboard

structure Config where
  port : Option Value := none
  bufferSize : Int := 1024
  baudRate : Int := 115200
  drainTimeout : Float := 0.1
  board : Board
  mappings : Mappings

namespace Config

inductive Fault where
  | notTable
  | sectionKind (key : Text) (found : Value)
  | duration (found : Value)
  | response (found : Value)
  | selection (found : Value)
  | noRequest (index : Nat)
  | noResponses (index : Nat) (request : Value)
  | pattern (index : Nat) (request : Text)
  /-- A value of the wrong kind, or a text that spells no number. -/
  | wrongKind
  /-- A number too large for its kind. -/
  | tooLarge
  /-- A key that no text shows. -/
  | longKey
  /-- A value inside too many others, or inside itself. -/
  | tooDeep

def Fault.message : Fault → Text
  | .notTable => text "configuration must be a mapping"
  | .sectionKind key found => key ++ text " must be a mapping, got " ++ found.kindName
  | .duration found => text "invalid duration: " ++ found.display
  | .response found => text "invalid response option: " ++ found.display
  | .selection found => text "unknown selection mode: " ++ found.display
  | .noRequest index => text "mapping " ++ Text.ofNat index ++ text " has no request"
  | .noResponses index request =>
      text "mapping " ++ Text.ofNat index ++ text " (" ++ request.display ++
        text ") has no responses configured"
  | .pattern index request =>
      text "invalid regex in mapping " ++ Text.ofNat index ++ text " (" ++ request.display ++
        text "): "
  | .wrongKind => text "invalid configuration: "
  | .tooLarge => []
  | .longKey => []
  | .tooDeep => []

/-- Whether a fault is told as one of the configuration. What is too much to be dealt with at all is
not. -/
def Fault.isReported : Fault → Bool
  | .tooLarge => false
  | .longKey => false
  | .tooDeep => false
  | _ => true

def Fault.about (found : Value) (fault : Fault) : Fault :=
  if found.canShow then fault else .wrongKind

abbrev Reading (α : Type) := Except Fault α

def field (t : Table) (key : String) : Value := (t.get? (text key)).getD .null

def fieldOr (t : Table) (key : String) (default : Value) : Value :=
  (t.get? (text key)).getD default

/-- The first of two values, if it counts as given. -/
def given (v other : Value) : Value := if v.isGiven then v else other

def textOf (v : Value) : Reading Text := if v.canShow then .ok v.toText else .error .wrongKind

def asciiOf (data : Bytes) : Reading Text :=
  let s : Text := data.map fun b => .char (.ofNat b.toNat)
  if s.all CodePoint.isAscii then .ok s else .error .wrongKind

def tableOf : Value → Reading Table
  | .table t => .ok t
  | _ => .error .wrongKind

/-- A table inside a table; what does not count as given is an empty one. -/
def section? (t : Table) (key : String) : Reading Table :=
  match given (field t key) (.table []) with
  | .table inner => .ok inner
  | v => .error (.sectionKind (text key) v)

def integerOf (s : Text) : Reading Int :=
  match readInteger s with
  | .ok i => .ok i
  | .error _ => .error .wrongKind

def integer : Value → Reading Int
  | .bool b => .ok (if b then 1 else 0)
  | .int i => .ok i
  | .float x =>
      match FloatKind.of x with
      | .nan => .error .wrongKind
      | .infinite _ => .error .tooLarge
      | .finite d => .ok d.truncate
  | .text s => integerOf s
  | .bytes data => do integerOf (← asciiOf data)
  | _ => .error .wrongKind

def numberOf (s : Text) : Reading Float :=
  match readFloat? s with
  | some x => .ok x
  | none => .error .wrongKind

def number : Value → Reading Float
  | .bool b => .ok (if b then 1.0 else 0.0)
  | .int i =>
      match floatOfInt? i with
      | some x => .ok x
      | none => .error .tooLarge
  | .float x => .ok x
  | .text s => numberOf s
  | .bytes data => do numberOf (← asciiOf data)
  | _ => .error .wrongKind

def duration (v : Value) : Reading Float :=
  match Duration.read v with
  | .ok x => .ok x
  | .error .invalid => .error ((Fault.duration v).about v)
  | .error .tooLarge => .error .tooLarge

/-- The members of a value: the items of a list or a set, the code points of a text, the keys of a
table, the numbers of bytes. What does not count as given has none. -/
def members (v : Value) : Reading (List Value) :=
  if !v.isGiven then .ok []
  else match v with
    | .list items => .ok items
    | .text s => .ok (s.map fun c => .text [c])
    | .table t => .ok (t.map fun (key, _) => .text key)
    | .set members => .ok members
    | .bytes data => .ok (data.map fun b => .int b.toNat)
    | _ => .error .wrongKind

end Config

end Breadboard
