import Breadboard.Data.Yaml.Merge
import Breadboard.Data.Yaml.Scalar

/-! What YAML nodes stand for. A scalar is read where it is met; what is inside a list or a table is
read after all that was met before it, so faults are found level by level. -/

namespace Breadboard.Yaml

/-- What a node stands for; what is inside it is told by nodes. -/
inductive Object where
  | leaf (v : Value)
  | list (items : List NodeId)
  | pairs (items : List (NodeId × NodeId))
  | table (entries : List (NodeId × NodeId))
  | set (members : List NodeId)

namespace Graph

/-- The text of a scalar, or of what stands for a table in place of one. -/
def scalarText (g : Graph) : (fuel : Nat) → NodeId → Reading Text
  | 0, _ => .error .tooDeep
  | fuel + 1, id =>
      match g.content id with
      | .scalar s => .ok s
      | .list _ => .error .malformed
      | .table entries =>
          match entries.find? fun (k, _) => g.kind k = .default with
          | some (_, v) => scalarText g fuel v
          | none => .error .malformed

def leaf (g : Graph) (id : NodeId) : Reading Value := do
  let s ← g.scalarText (g.size + 1) id
  match g.kind id with
  | .null => return .null
  | .bool => return .bool (← truth s)
  | .int => return .int (← integer s)
  | .float => return .float (← float s)
  | .text => return .text s
  | .bytes => return .bytes (← binary s)
  | .moment =>
      match g.content id with
      | .scalar _ => return .moment (← moment s)
      | _ => throw .noMoment
  | _ => throw .malformed

end Graph

def exactNumber? : Value → Option (Int × Nat)
  | .bool b => some (if b then 1 else 0, 1)
  | .int i => some (i, 1)
  | .float x =>
      match FloatKind.of x with
      | .finite d =>
          let (num, den) := d.ratio
          some (if d.negative then -(num : Int) else num, den)
      | _ => none
  | _ => none

/-- Whether two values are the same key: numbers are if they are equal. -/
def sameKey : Value → Value → Bool
  | .text a, .text b => a = b
  | .null, .null => true
  | .moment m, .moment n => m.same n
  | .bytes a, .bytes b => a = b
  | a, b =>
      match exactNumber? a, exactNumber? b, a, b with
      | some (m, d), some (n, e), _, _ => m * e = n * d
      | none, none, .float x, .float y => x == y
      | _, _, _, _ => false

structure Builder where
  nodes : Graph
  /-- What is known of each node. -/
  objects : Array (Option Object)
  /-- The nodes that were met and not looked into, the last first. -/
  waiting : List NodeId := []

namespace Builder

def object? (b : Builder) (id : NodeId) : Option Object := (b.objects[id]?).getD none

def put (id : NodeId) (o : Object) (b : Builder) : Builder :=
  { b with objects := b.objects.setIfInBounds id (some o) }

def leaf? (b : Builder) (id : NodeId) : Option Value :=
  match b.object? id with
  | some (.leaf v) => some v
  | _ => none

def isNotNumber (b : Builder) (id : NodeId) : Bool :=
  b.nodes.kind id = .float &&
    match b.nodes.scalarText (b.nodes.size + 1) id with
    | .ok s => Yaml.isNotNumber s
    | .error _ => false

/-- Whether two nodes are the same key. Every node is the same as itself. -/
def sameKey (b : Builder) (j k : NodeId) : Bool :=
  j = k || b.isNotNumber j && b.isNotNumber k ||
    match b.leaf? j, b.leaf? k with
    | some v, some w => Yaml.sameKey v w
    | _, _ => false

def putKey (b : Builder) (key v : NodeId) : List (NodeId × NodeId) → List (NodeId × NodeId)
  | [] => [(key, v)]
  | (k, old) :: rest =>
      if b.sameKey k key then (k, v) :: rest else (k, old) :: putKey b key v rest

end Builder

abbrev Build := StateT Builder (Except Fault)

namespace Build

def malformed {α : Type} : Build α := throw .malformed

def put (id : NodeId) (o : Object) : Build Unit := modify fun b => b.put id o

def defer (id : NodeId) (o : Object) : Build Unit :=
  modify fun b => { b.put id o with waiting := id :: b.waiting }

def meet (id : NodeId) : Build Unit := do
  let b ← get
  if (b.object? id).isSome then return
  match b.nodes.kind id with
  | .list => defer id (.list [])
  | .table => defer id (.table [])
  | .set => defer id (.set [])
  | .pairs => defer id (.pairs [])
  | .merge | .default | .unknown => malformed
  | _ => put id (.leaf (← b.nodes.leaf id))

/-- The entries of a table with what is merged into it; of those with the same key the last
counts. -/
def entriesOf (id : NodeId) : Build (List (NodeId × NodeId)) := do
  let nodes ← (← get).nodes.flatten id
  modify fun b => { b with nodes }
  match nodes.content id with
  | .table entries =>
      entries.foldlM (fun found (k, v) => do
        meet k
        if ((← get).leaf? k).isNone then malformed
        meet v
        return (← get).putKey k v found) []
  | _ => malformed

def pairOf (id : NodeId) : Build (NodeId × NodeId) := do
  match (← get).nodes.content id with
  | .table [(k, v)] =>
      meet k
      meet v
      return (k, v)
  | _ => malformed

def fill (id : NodeId) : Build Unit := do
  match (← get).nodes.kind id, (← get).nodes.content id with
  | .list, .list items =>
      items.forM meet
      put id (.list items)
  | .pairs, .list items => put id (.pairs (← items.mapM pairOf))
  | .table, .table _ => put id (.table (← entriesOf id))
  | .set, .table _ => put id (.set ((← entriesOf id).map (·.1)))
  | _, _ => malformed

def fillAll : (fuel : Nat) → Build Unit
  | 0 => return
  | fuel + 1 => do
      let waiting := (← get).waiting.reverse
      unless waiting.isEmpty do
        modify fun b => { b with waiting := [] }
        waiting.forM fill
        fillAll fuel

end Build

def objectsFrom (nodes : Graph) (root : NodeId) : Reading (Array (Option Object)) := do
  let all : Build Unit := do
    Build.meet root
    Build.fillAll (nodes.size + 1)
  let ((), b) ← all.run { nodes, objects := Array.replicate nodes.size none }
  return b.objects

end Breadboard.Yaml
