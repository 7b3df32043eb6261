import Breadboard.Data.Scatter
import Breadboard.Data.Yaml.Object

/-! YAML read into values. Where a value is inside itself, it is only told that it is there
again. -/

namespace Breadboard.Yaml

/-- The code of a member of a set, if it has one that is always the same. -/
def codeOf? : Value → Option Nat
  | .text [] => some 0
  | .bytes [] => some 0
  | .float x =>
      match FloatKind.of x with
      | .infinite negative => some (Scatter.code (if negative then -314159 else 314159) 1)
      | _ => (exactNumber? (.float x)).map fun (num, den) => Scatter.code num den
  | v => (exactNumber? v).map fun (num, den) => Scatter.code num den

/-- The members of a set in their order, which is that of their reading if not all have codes. -/
def setOf (members : List Value) : Value :=
  match members.mapM fun v => (codeOf? v).map (·, v) with
  | some entries => .set (Scatter.order entries)
  | none => .set members

/-- A place on the way to a value: a node, or one of the pairs in it. -/
abbrev Spot := NodeId × Option Nat

/-- The value of a node. Around it are the spots that it would be inside of again. What is in a pair
is around nothing but what the pair holds, because a table around the pair is yet to be put into its
common spelling. -/
def unfold (objects : Array (Option Object)) (inPair : Bool) (around : List Spot) :
    (fuel : Nat) → NodeId → Value
  | 0, _ => .null
  | fuel + 1, id =>
      let leaf (id : NodeId) : Value :=
        match objects[id]? with
        | some (some (.leaf v)) => v
        | _ => .null
      let inside := (id, none) :: around
      let isAgain := around.elem (id, none)
      match objects[id]? with
      | some (some (.leaf v)) => v
      | some (some (.list items)) =>
          if isAgain then .again .list
          else .list (items.map (unfold objects inPair inside fuel))
      | some (some (.table entries)) =>
          if isAgain then .again .table
          else .map (entries.map fun (k, v) => (leaf k, unfold objects inPair inside fuel v))
      | some (some (.pairs items)) =>
          if isAgain then .again .list
          else .list (items.zipIdx.map fun ((k, v), i) =>
            let spot : Spot := (id, some i)
            if inPair && around.elem spot then .again .pair
            else
              let inside := if inPair then spot :: inside else [spot]
              .pair (unfold objects true inside fuel k) (unfold objects true inside fuel v))
      | some (some (.set members)) => setOf (members.map leaf)
      | _ => .null

def read (bytes : Bytes) : Reading Value := do
  match ← graph (Source.ofBytes bytes) with
  | none => return .null
  | some (nodes, root) =>
      let objects ← objectsFrom nodes root
      return unfold objects false [] (4 * nodes.size + 4) root

end Breadboard.Yaml
