import Breadboard.Number.Numeral
import Breadboard.Text.Display

/-! The table of nets a device prints, in two layouts: with a voltage, or with a colour and
readings after the nodes. A header line says which layout follows. -/

namespace Breadboard

inductive NetLayout where
  | voltage (v : Text)
  | color (name : Text) (extra : Option Text)
  deriving DecidableEq

structure Net where
  index : Int
  name : Text
  layout : NetLayout
  nodes : List Text
  deriving DecidableEq

namespace Net

def voltage? (net : Net) : Option Text :=
  match net.layout with
  | .voltage v => some v
  | .color .. => none

def color? (net : Net) : Option Text :=
  match net.layout with
  | .voltage _ => none
  | .color name _ => some name

def extra? (net : Net) : Option Text :=
  match net.layout with
  | .voltage _ => none
  | .color _ extra => extra

end Net

namespace NetTable

/-- The colours a net can have. Of two that a line could start with, the first here counts. -/
def colors : List String := [
  "red", "orange", "amber", "yellow", "chartreuse", "green", "seafoam", "cyan", "blue",
  "royal blue", "indigo", "violet", "purple", "pink", "magenta", "white", "black", "grey"]

inductive Cause where
  | fewFields (count : Nat)
  | badIndex (field : Text)
  | noVoltage
  | noColor
  deriving DecidableEq

structure Fault where
  line : Text
  cause : Cause
  deriving DecidableEq

def Fault.message (fault : Fault) : Text :=
  let line := fault.line.display
  text "unable to parse net line " ++ line ++ text ": " ++
    match fault.cause with
    | .fewFields count =>
        text "expected at least 3 fields, got " ++ Text.ofNat count ++ text " for line " ++ line
    | .badIndex field =>
        text "unable to parse index (" ++ field.display ++ text ") from net line " ++ line
    | .noVoltage => text "unable to find voltage in net line " ++ line
    | .noColor => text "unable to find color in net line " ++ line

/-- What a line comes to: a net, a redraw of one that is there already, or a fault. An index of
more digits than are read ends the whole reading. -/
inductive Outcome where
  | net (net : Net)
  | redraw
  | fault (cause : Cause)
  | endless

def tab : Text := text "\t"

def index? (field : Text) : Option (Except IntegerFault Int) :=
  let (negative, digits) := Numeral.takeSign field
  match digits.mapM CodePoint.asciiDigit? with
  | none | some [] => none
  | some ds => some ((ofDigits? ds).map fun n => if negative then -(n : Int) else n)

def nodes (s : Text) : List Text :=
  ((Text.splitAt (.char ',') s).map Text.trim).filter (!·.isEmpty)

/-- The rest of a line after `- ` and a letter, which mark a pin's function. -/
def dropFlag (s : Text) : Text :=
  match s with
  | .char '-' :: .char ' ' :: .char c :: rest => if c.isAlpha then Text.trim rest else s
  | _ => s

/-- The rest of a line after backspaces and a star, which mark a selected net. -/
def dropMarker (s : Text) : Text :=
  let s := s.dropWhile (· = .char '\x08')
  ((Text.dropLead? (text "*") s).getD s).trim

def voltageNet (s : Text) : Except Cause (NetLayout × List Text) :=
  match Text.cut? (text " V") s with
  | none => .error .noVoltage
  | some (before, after) => .ok (.voltage (before.trim ++ text "V"), nodes after.trim)

def colorNet (s : Text) : Except Cause (NetLayout × List Text) :=
  let s := dropMarker s
  match colors.findSome? fun c => (Text.dropLead? (text c) s).map (text c, ·) with
  | none => .error .noColor
  | some (color, rest) =>
      let rest := dropFlag rest.trim
      match Text.cut? tab rest with
      | none => .ok (.color color none, nodes rest.trim)
      | some (before, after) => .ok (.color color (some after.trim), nodes before.trim)

def fields (line : Text) : Except Nat (Text × Text × Text) :=
  match Text.cut? tab line with
  | none => .error 1
  | some (first, rest) =>
      match Text.cut? tab rest with
      | none => .error 2
      | some (second, rest) => .ok (first, second, rest)

def readLine (colored : Bool) (last : Int) (line : Text) : Outcome :=
  match fields line with
  | .error count => .fault (.fewFields count)
  | .ok (first, second, rest) =>
      match index? first.trim with
      | none => .fault (.badIndex first)
      | some (.error _) => .endless
      | some (.ok index) =>
          if index < -2147483648 ∨ 2147483647 < index then .fault (.badIndex first)
          else if index ≤ last then .redraw
          else match (if colored then colorNet else voltageNet) rest.trim with
            | .error cause => .fault cause
            | .ok (layout, nodes) => .net ⟨index, second.trim, layout, nodes⟩

def header : Text := text "Index"

def readLines (colored : Bool) (last : Int) : List Text → Option (List Net × List Fault)
  | [] => some ([], [])
  | line :: rest =>
      let line := line.trim
      if line.isEmpty then readLines colored last rest
      else if line.startsWith header then readLines (line.contains (text "Color")) last rest
      else match readLine colored last line with
        | .endless => none
        | .redraw => readLines colored last rest
        | .fault cause =>
            (readLines colored last rest).map fun (nets, faults) => (nets, ⟨line, cause⟩ :: faults)
        | .net net =>
            (readLines colored net.index rest).map fun (nets, faults) => (net :: nets, faults)

def read? (table : Text) : Option (List Net × List Fault) :=
  readLines false 0 (Text.splitAt (.char '\n') table)

end NetTable

end Breadboard
