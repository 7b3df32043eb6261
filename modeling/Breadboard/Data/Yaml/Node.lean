import Breadboard.Data.Yaml.Kind
import Breadboard.Data.Yaml.Token

/-! YAML tokens as a graph of nodes. An alias is the node that its anchor marks, also inside that
node; what is left out is an empty plain scalar. A node is known before the tokens behind it. -/

namespace Breadboard.Yaml

abbrev NodeId := Nat

inductive Content where
  | scalar (s : Text)
  | list (items : List NodeId)
  | table (entries : List (NodeId × NodeId))
  deriving Inhabited

structure Node where
  kind : Kind
  content : Content

abbrev Graph := Array Node

namespace Graph

def kind (g : Graph) (id : NodeId) : Kind := (g[id]?.map (·.kind)).getD .unknown

def content (g : Graph) (id : NodeId) : Content := (g[id]?.map (·.content)).getD (.list [])

def setKind (g : Graph) (id : NodeId) (kind : Kind) : Graph :=
  g.modify id fun n => { n with kind }

def setContent (g : Graph) (id : NodeId) (content : Content) : Graph :=
  g.modify id fun n => { n with content }

end Graph

def mostLevels : Nat := 490

structure Parser where
  scanner : Scanner
  /-- How many lists and tables are around this place. -/
  levels : Nat := 0
  nodes : Graph := #[]
  anchors : List (Text × NodeId) := []
  /-- What handles stand for in tags. -/
  handles : List (Text × Text) := []

abbrev Parse := StateT Parser (Except Fault)

namespace Parse

def malformed {α : Type} : Parse α := throw .malformed

def scan {α : Type} (x : Scan α) : Parse α := do
  let (a, scanner) ← x.run (← get).scanner
  modify fun p => { p with scanner }
  return a

def peek : Parse (Option Token) := scan Scan.nextToken

def advance : Parse Unit := scan Scan.takeToken

def accept (t : Token) : Parse Bool := do
  if (← peek) = some t then
    advance
    return true
  else return false

def atOne (ts : List Token) : Parse Bool := do
  match ← peek with
  | some t => return ts.elem t
  | none => return false

def newNode (anchor : Option Text) (n : Node) : Parse NodeId := do
  let p ← get
  let id := p.nodes.size
  match anchor with
  | none => set { p with nodes := p.nodes.push n }
  | some name =>
      if (p.anchors.lookup name).isSome then malformed
      set { p with nodes := p.nodes.push n, anchors := (name, id) :: p.anchors }
  return id

def fill (id : NodeId) (content : Parse Content) : Parse NodeId := do
  let levels := (← get).levels
  if mostLevels ≤ levels then throw .tooDeep
  modify fun p => { p with levels := levels + 1 }
  let content ← content
  modify fun p => { p with levels, nodes := p.nodes.setContent id content }
  return id

def nothing : Parse NodeId := newNode none ⟨.null, .scalar []⟩

def usualHandles : List (Text × Text) := [(text "!", text "!"), (text "!!", Kind.lead)]

def anchor? : Parse (Option Text) := do
  match ← peek with
  | some (.anchor name) =>
      advance
      return some name
  | _ => return none

def tag? : Parse (Option (Option Text × Text)) := do
  match ← peek with
  | some (.tag handle suffix) =>
      advance
      return some (handle, suffix)
  | _ => return none

def spelledTag : Option (Option Text × Text) → Parse (Option Text)
  | none => return none
  | some (none, suffix) => return some suffix
  | some (some handle, suffix) => do
      match ((← get).handles ++ usualHandles).lookup handle with
      | some lead => return some (lead ++ suffix)
      | none => malformed

def properties : Parse (Option Text × Option Text) := do
  match ← anchor? with
  | some name => return (some name, ← spelledTag (← tag?))
  | none =>
      match ← tag? with
      | none => return (none, none)
      | some tag =>
          let anchor ← anchor?
          return (anchor, ← spelledTag (some tag))

mutual
/-- A node. In a flow no block can begin; where `indentless` holds, a list's items may stand at the
indentation of the block around them. -/
def node (block indentless : Bool) : (fuel : Nat) → Parse NodeId
  | 0 => malformed
  | fuel + 1 => do
      match ← peek with
      | some (.alias name) =>
          advance
          match (← get).anchors.lookup name with
          | some id => return id
          | none => malformed
      | _ =>
          let (anchor, tag) ← properties
          content block indentless anchor tag fuel

def content (block indentless : Bool) (anchor tag : Option Text) : (fuel : Nat) → Parse NodeId
  | 0 => malformed
  | fuel + 1 => do
      let newList := newNode anchor ⟨.ofGroup tag .list, .list []⟩
      let newTable := newNode anchor ⟨.ofGroup tag .table, .table []⟩
      match ← peek with
      | some (.scalar plain s) =>
          advance
          newNode anchor ⟨.ofScalar tag plain s, .scalar s⟩
      | some .flowList =>
          fill (← newList) do
            advance
            return .list (← flowItems [] fuel)
      | some .flowTable =>
          fill (← newTable) do
            advance
            return .table (← flowEntries [] fuel)
      | t =>
          if indentless && t = some .item then
            fill (← newList) do return .list (← looseItems [] fuel)
          else if block && t = some .blockList then
            fill (← newList) do
              advance
              return .list (← blockItems [] fuel)
          else if block && t = some .blockTable then
            fill (← newTable) do
              advance
              return .table (← blockEntries [] fuel)
          else if anchor.isSome || tag.isSome then
            newNode anchor ⟨.ofScalar tag true [], .scalar []⟩
          else malformed

def nodeUnless (ends : List Token) (block indentless : Bool) : (fuel : Nat) → Parse NodeId
  | 0 => malformed
  | fuel + 1 => do
      if ← atOne ends then nothing else node block indentless fuel

/-- The items of a block after those in `found`, which has the last first. -/
def blockItems (found : List NodeId) : (fuel : Nat) → Parse (List NodeId)
  | 0 => malformed
  | fuel + 1 => do
      if ← accept .item then
        let n ← nodeUnless [.item, .blockEnd] true false fuel
        blockItems (n :: found) fuel
      else if ← accept .blockEnd then return found.reverse
      else malformed

def looseItems (found : List NodeId) : (fuel : Nat) → Parse (List NodeId)
  | 0 => malformed
  | fuel + 1 => do
      if ← accept .item then
        let n ← nodeUnless [.item, .key, .value, .blockEnd] true false fuel
        looseItems (n :: found) fuel
      else return found.reverse

def blockEntries (found : List (NodeId × NodeId)) : (fuel : Nat) → Parse (List (NodeId × NodeId))
  | 0 => malformed
  | fuel + 1 => do
      if ← accept .key then
        let ends := [Token.key, .value, .blockEnd]
        let k ← nodeUnless ends true true fuel
        let v ← if ← accept .value then nodeUnless ends true true fuel else nothing
        blockEntries ((k, v) :: found) fuel
      else if ← accept .blockEnd then return found.reverse
      else malformed

/-- The items of a list in brackets; one with a key is a table of one entry. -/
def flowItems (found : List NodeId) : (fuel : Nat) → Parse (List NodeId)
  | 0 => malformed
  | fuel + 1 => do
      if ← accept .flowListEnd then return found.reverse
      unless found.isEmpty do
        unless ← accept .comma do malformed
      if (← peek) = some .key then
        let id ← fill (← newNode none ⟨.table, .table []⟩) do
          advance
          let k ← nodeUnless [.value, .comma, .flowListEnd] false false fuel
          let v ← if ← accept .value then nodeUnless [.comma, .flowListEnd] false false fuel
            else nothing
          return .table [(k, v)]
        flowItems (id :: found) fuel
      else if ← accept .flowListEnd then return found.reverse
      else
        let n ← node false false fuel
        flowItems (n :: found) fuel

/-- The entries of a table in braces; one without a key's token has no value. -/
def flowEntries (found : List (NodeId × NodeId)) : (fuel : Nat) → Parse (List (NodeId × NodeId))
  | 0 => malformed
  | fuel + 1 => do
      if ← accept .flowTableEnd then return found.reverse
      unless found.isEmpty do
        unless ← accept .comma do malformed
      if ← accept .key then
        let k ← nodeUnless [.value, .comma, .flowTableEnd] false false fuel
        let v ← if ← accept .value then nodeUnless [.comma, .flowTableEnd] false false fuel
          else nothing
        flowEntries ((k, v) :: found) fuel
      else if ← accept .flowTableEnd then return found.reverse
      else
        let k ← node false false fuel
        let v ← nothing
        flowEntries ((k, v) :: found) fuel
end

/-- Directives, of which at most one gives a version, the first, or tells of the same handle. -/
def directives (versioned : Bool) : (fuel : Nat) → Parse Unit
  | 0 => malformed
  | fuel + 1 => do
      match ← peek with
      | some (.directive d) =>
          advance
          match d with
          | .version major =>
              if versioned ∨ major ≠ 1 then malformed
              directives true fuel
          | .handle name lead =>
              if ((← get).handles.lookup name).isSome then malformed
              modify fun p => { p with handles := (name, lead) :: p.handles }
              directives versioned fuel
          | .other => directives versioned fuel
      | _ => return

def documentStart (fuel : Nat) : Parse Unit := do
  directives false fuel
  unless ← accept .documentStart do malformed

def skipDocumentEnds : (fuel : Nat) → Parse Unit
  | 0 => return
  | fuel + 1 => do
      if ← accept .documentEnd then skipDocumentEnds fuel

def document (fuel : Nat) : Parse (Option NodeId) := do
  let n ←
    match ← peek with
    | none => return none
    | some (.directive _) | some .documentStart => do
        documentStart fuel
        match ← peek with
        | none | some (.directive _) | some .documentStart | some .documentEnd => nothing
        | some _ => node true false fuel
    | some _ => node true false fuel
  skipDocumentEnds fuel
  unless (← peek).isNone do
    documentStart fuel
    malformed
  return some n

end Parse

def graph (s : Source) : Reading (Option (Graph × NodeId)) := do
  let scanner := Scan.start s
  let (root, p) ← (Parse.document (16 * scanner.size + 64)).run { scanner }
  return root.map (p.nodes, ·)

end Breadboard.Yaml
