import Breadboard.Data.Yaml.Node

/-! Tables merged into tables. What stands under a merge key, a table or a list of tables, comes in
front of a table's own entries; of a list of tables the last comes first, so that the first counts
most. A table that is merged has what is merged into it put in as well, for good. -/

namespace Breadboard.Yaml

abbrev Merge := StateT Graph (Except Fault)

namespace Merge

def malformed {α : Type} : Merge α := throw .malformed

def entriesOf (id : NodeId) : Merge (List (NodeId × NodeId)) := do
  match (← get).content id with
  | .table entries => return entries
  | _ => malformed

def takeMerge? (id : NodeId) : Merge (Option NodeId) := do
  let entries ← entriesOf id
  let g ← get
  match entries.span fun (k, _) => g.kind k ≠ .merge with
  | (before, (_, v) :: behind) =>
      set (g.setContent id (.table (before ++ behind)))
      return some v
  | _ => return none

/-- The keys of defaults are texts where a table is wanted. -/
def settleKeys (id : NodeId) : Merge Unit := do
  for (k, _) in ← entriesOf id do
    modify fun g => if g.kind k = .default then g.setKind k .text else g

mutual
def flatten (id : NodeId) : (fuel : Nat) → Merge Unit
  | 0 => malformed
  | fuel + 1 => do
      let merged ← mergedInto id fuel
      settleKeys id
      unless merged.isEmpty do
        let own ← entriesOf id
        modify fun g => g.setContent id (.table (merged ++ own))

def mergedInto (id : NodeId) : (fuel : Nat) → Merge (List (NodeId × NodeId))
  | 0 => malformed
  | fuel + 1 => do
      match ← takeMerge? id with
      | none => return []
      | some v =>
          let these ← merging v fuel
          return these ++ (← mergedInto id fuel)

def merging (id : NodeId) : (fuel : Nat) → Merge (List (NodeId × NodeId))
  | 0 => malformed
  | fuel + 1 => do
      match (← get).content id with
      | .scalar _ => malformed
      | .table _ =>
          flatten id fuel
          entriesOf id
      | .list items =>
          let tables ← items.mapM fun item => do
            flatten item fuel
            entriesOf item
          return tables.reverse.flatten
end

end Merge

namespace Graph

def entryCount (g : Graph) : Nat :=
  g.foldl (fun n node =>
    match node.content with
    | .table entries => n + entries.length
    | _ => n) 0

/-- Whether a node is a table with nothing to merge and no key of a default. -/
def isFlat (g : Graph) (id : NodeId) : Bool :=
  match g.content id with
  | .table entries => entries.all fun (k, _) => g.kind k ≠ .merge && g.kind k ≠ .default
  | _ => false

/-- The graph with all merges into a table done. Every merge takes out a merge key. -/
def flatten (g : Graph) (id : NodeId) : Reading Graph := do
  if g.isFlat id then return g
  let (_, g) ← (Merge.flatten id (3 * g.entryCount + 3)).run g
  return g

end Graph

end Breadboard.Yaml
