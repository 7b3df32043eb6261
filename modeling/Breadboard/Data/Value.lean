import Breadboard.Data.Dict
import Breadboard.Data.Moment
import Breadboard.Number.Numeral
import Breadboard.Number.Shortest
import Breadboard.Text.Display

/-! Values read from files: scalars, lists and tables. A format may also know moments, bytes, pairs,
sets, tables whose keys are not texts, and values that hold themselves. -/

namespace Breadboard

inductive Shape where
  | list
  | table
  | pair
  deriving DecidableEq, Repr

inductive Value where
  | null
  | bool (b : Bool)
  | int (i : Int)
  | float (x : Float)
  | text (s : Text)
  | list (items : List Value)
  | table (entries : List (Text × Value))
  | moment (m : Moment)
  | bytes (data : Bytes)
  | pair (first second : Value)
  | set (members : List Value)
  /-- A table with keys of any kind. -/
  | map (entries : List (Value × Value))
  /-- A value that this one is inside of. -/
  | again (shape : Shape)
  deriving Inhabited

abbrev Table := Dict Value

namespace Value

/-- Whether a value counts as given: not null, false, zero or empty. -/
def isGiven : Value → Bool
  | .null => false
  | .bool b => b
  | .int i => i != 0
  | .float x => x != 0.0
  | .text s => !s.isEmpty
  | .list items => !items.isEmpty
  | .table entries => !entries.isEmpty
  | .moment _ => true
  | .bytes data => !data.isEmpty
  | .pair _ _ => true
  | .set members => !members.isEmpty
  | .map entries => !entries.isEmpty
  | .again _ => true

def kindName : Value → Text
  | .null => Breadboard.text "NoneType"
  | .bool _ => Breadboard.text "bool"
  | .int _ => Breadboard.text "int"
  | .float _ => Breadboard.text "float"
  | .text _ => Breadboard.text "str"
  | .list _ => Breadboard.text "list"
  | .table _ => Breadboard.text "dict"
  | .moment m => m.kindName
  | .bytes _ => Breadboard.text "bytes"
  | .pair _ _ => Breadboard.text "tuple"
  | .set _ => Breadboard.text "set"
  | .map _ => Breadboard.text "dict"
  | .again .list => Breadboard.text "list"
  | .again .table => Breadboard.text "dict"
  | .again .pair => Breadboard.text "tuple"

mutual
def display : Value → Text
  | .null => Breadboard.text "None"
  | .bool b => Breadboard.text (if b then "True" else "False")
  | .int i => Text.ofInt i
  | .float x => plainFloat.write x
  | .text s => s.display
  | .list items => Breadboard.text "[" ++ displayItems items ++ Breadboard.text "]"
  | .table entries => Breadboard.text "\x7b" ++ displayEntries entries ++ Breadboard.text "\x7d"
  | .moment m => m.display
  | .bytes data => Text.displayBytes data
  | .pair v w =>
      Breadboard.text "(" ++ v.display ++ Breadboard.text ", " ++ w.display ++ Breadboard.text ")"
  | .set [] => Breadboard.text "set()"
  | .set (v :: rest) =>
      Breadboard.text "\x7b" ++ displayItems (v :: rest) ++ Breadboard.text "\x7d"
  | .map entries => Breadboard.text "\x7b" ++ displayPairs entries ++ Breadboard.text "\x7d"
  | .again .list => Breadboard.text "[...]"
  | .again .table => Breadboard.text "\x7b...\x7d"
  | .again .pair => Breadboard.text "(...)"

def displayItems : List Value → Text
  | [] => []
  | [v] => v.display
  | v :: w :: rest => v.display ++ Breadboard.text ", " ++ displayItems (w :: rest)

def displayEntries : List (Text × Value) → Text
  | [] => []
  | [(key, v)] => key.display ++ Breadboard.text ": " ++ v.display
  | (key, v) :: e :: rest =>
      key.display ++ Breadboard.text ": " ++ v.display ++ Breadboard.text ", " ++
        displayEntries (e :: rest)

def displayPairs : List (Value × Value) → Text
  | [] => []
  | [(key, v)] => key.display ++ Breadboard.text ": " ++ v.display
  | (key, v) :: e :: rest =>
      key.display ++ Breadboard.text ": " ++ v.display ++ Breadboard.text ", " ++
        displayPairs (e :: rest)
end

/-- The text a value becomes where text is wanted: a text is itself, a moment is written out, and
anything else is as messages show it. -/
def toText : Value → Text
  | .text s => s
  | .moment m => m.written
  | v => v.display

mutual
/-- Whether a value can be shown: an integer of too many digits cannot. -/
def canShow : Value → Bool
  | .int i => i.natAbs < Nat.pow 10 mostDigits
  | .list items => canShowAll items
  | .table entries => canShowEntries entries
  | .pair v w => v.canShow && w.canShow
  | .set members => canShowAll members
  | .map entries => canShowPairs entries
  | _ => true

def canShowAll : List Value → Bool
  | [] => true
  | v :: rest => v.canShow && canShowAll rest

def canShowEntries : List (Text × Value) → Bool
  | [] => true
  | (_, v) :: rest => v.canShow && canShowEntries rest

def canShowPairs : List (Value × Value) → Bool
  | [] => true
  | (key, v) :: rest => key.canShow && v.canShow && canShowPairs rest
end

end Value

end Breadboard
