import Breadboard.Data.Value
import Breadboard.Text.Case

/-! Keys of a configuration: however they are spelled, they are read in lower case with underscores
between words. Tables of channels, pins and nodes have identifiers for keys, which stay as they
are. -/

namespace Breadboard.Key

def isLowOrDigit (c : CodePoint) : Bool :=
  0x61 ≤ c.toNat && c.toNat ≤ 0x7A || 0x30 ≤ c.toNat && c.toNat ≤ 0x39

def isCapital (c : CodePoint) : Bool := 0x41 ≤ c.toNat && c.toNat ≤ 0x5A

/-- Underscores where a capital begins a word, and in place of dashes. -/
def separated : (low : Bool) → Text → Text
  | _, [] => []
  | low, c :: s =>
      (if low && isCapital c then [.char '_'] else []) ++
        (if c = .char '-' then .char '_' else c) :: separated (isLowOrDigit c) s

def snake (key : Text) : Text := (separated false key).lower

def idTables : List String := ["dac_channels", "adc_channels", "ina_sensors", "gpio_pins", "nodes"]

def isIdTable (key : Text) : Bool := idTables.any fun s => text s = key

inductive Fault where
  /-- A key that no text shows. -/
  | unshown
  /-- A value inside too many others, or inside itself. -/
  | tooDeep
  deriving DecidableEq, Repr

def textOf (key : Value) : Except Fault Text :=
  if key.canShow then .ok key.toText else .error .unshown

/-- How many steps there may be to a value that is inside others: one into a table, two into a
list. -/
def mostSteps : Nat := 994

mutual
/-- A value with its keys in their common spelling, but not those of this table if it has
identifiers. What is in pairs stays as it is. -/
def normal (ids : Bool) : (steps : Nat) → Value → Except Fault Value
  | 0, _ => .error .tooDeep
  | steps + 1, .table entries => do
      return .table (Dict.ofEntries (← normalEntries ids steps entries))
  | steps + 1, .map entries => do
      return .table (Dict.ofEntries (← normalPairs ids steps entries))
  | steps + 1, .list items => do return .list (← normalItems (steps - 1) items)
  | _, .again .list => .error .tooDeep
  | _, .again .table => .error .tooDeep
  | _, v => .ok v

def normalEntries (ids : Bool) (steps : Nat) :
    List (Text × Value) → Except Fault (List (Text × Value))
  | [] => .ok []
  | (k, v) :: rest => do
      let key := if ids then k else snake k
      let v ← normal (!ids && isIdTable key) steps v
      return (key, v) :: (← normalEntries ids steps rest)

def normalPairs (ids : Bool) (steps : Nat) :
    List (Value × Value) → Except Fault (List (Text × Value))
  | [] => .ok []
  | (k, v) :: rest => do
      let k ← textOf k
      let key := if ids then k else snake k
      let v ← normal (!ids && isIdTable key) steps v
      return (key, v) :: (← normalPairs ids steps rest)

def normalItems (steps : Nat) : List Value → Except Fault (List Value)
  | [] => .ok []
  | v :: rest => do
      let v ← normal false steps v
      return v :: (← normalItems steps rest)
end

end Breadboard.Key
