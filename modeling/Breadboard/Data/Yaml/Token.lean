import Breadboard.Data.Yaml.Source
import Breadboard.Number.Numeral

/-! YAML cut into tokens. Indentation becomes tokens of its own: a block begins where a line is
indented deeper than the block around it, and ends where a line is indented less. What stands
before a colon is known as a key only at the colon, so the key's token is put in afterwards. The
text is read no further than it takes to know the next token. -/

namespace Breadboard.Yaml

inductive Directive where
  | version (major : Nat)
  /-- What a handle stands for in tags. -/
  | handle (name lead : Text)
  | other
  deriving DecidableEq

inductive Token where
  | directive (d : Directive)
  | documentStart
  | documentEnd
  | blockList
  | blockTable
  | blockEnd
  | flowList
  | flowListEnd
  | flowTable
  | flowTableEnd
  | key
  | value
  | item
  | comma
  | alias (name : Text)
  | anchor (name : Text)
  | tag (handle : Option Text) (suffix : Text)
  | scalar (plain : Bool) (s : Text)
  deriving DecidableEq

structure OpenKey where
  /-- How many tokens come before it. -/
  before : Nat
  /-- Whether there must be a key here. -/
  required : Bool
  index : Nat
  line : Nat
  column : Nat

structure Scanner where
  rest : Text
  /-- What is met behind the text, if it is not the end. -/
  fault : Option Fault := none
  /-- How long the text is. -/
  size : Nat
  index : Nat := 0
  line : Nat := 0
  column : Nat := 0
  /-- How many brackets and braces are open. -/
  flow : Nat := 0
  indent : Int := -1
  indents : List Int := []
  /-- Whether a key may begin here. -/
  keyAllowed : Bool := true
  /-- The open keys by the number of open brackets. -/
  openKeys : List (Nat × OpenKey) := []
  /-- The tokens that are known and were not taken. -/
  tokens : List Token := []
  taken : Nat := 0
  ended : Bool := false

abbrev Scan := StateT Scanner (Except Fault)

def isBreak (c : CodePoint) : Bool :=
  c = .char '\n' || c.toNat == 0x85 || c.toNat == 0x2028 || c.toNat == 0x2029

def isGap (c : CodePoint) : Bool := c = .char ' ' || c = .char '\t' || isBreak c

def isOneOf (set : String) (c : CodePoint) : Bool := set.toList.any fun d => c = .char d

namespace Scan

def malformed {α : Type} : Scan α := throw .malformed

def peek (n : Nat) : Scan (Option CodePoint) := do
  let s ← get
  match s.rest[n]?, s.fault with
  | some c, _ => return some c
  | none, none => return none
  | none, some fault => throw fault

def gapAt (n : Nat) : Scan Bool := return (← peek n).all isGap

def atSpace : Scan Bool := return (← peek 0).all fun c => c = .char ' ' || isBreak c

def next (c : CodePoint) (s : Scanner) : Scanner :=
  let moved := { s with rest := s.rest.drop 1, index := s.index + 1 }
  if isBreak c then { moved with line := s.line + 1, column := 0 }
  else if c.toNat = 0xFEFF then moved
  else { moved with column := s.column + 1 }

def move : (n : Nat) → Scanner → Scanner
  | 0, s => s
  | n + 1, s =>
      match s.rest.head? with
      | some c => move n (next c s)
      | none => s

def forward (n : Nat) : Scan Unit := do
  let _ ← peek n
  modify (move n)

def takeWhile (test : CodePoint → Bool) : Scan Text := do
  let found := (← get).rest.takeWhile test
  forward found.length
  return found

def skipLine : Scan Unit := do
  let _ ← takeWhile (!isBreak ·)

def skipComment : Scan Unit := do
  if (← peek 0) = some (.char '#') then skipLine

def fuel : Scan Nat := return (← get).size - (← get).index + 2

/-- A line break, if one is here; most are line feeds in the end. -/
def lineBreak : Scan Text := do
  match ← peek 0 with
  | some c =>
      if isBreak c then
        forward 1
        return [if c.toNat = 0x2028 ∨ c.toNat = 0x2029 then c else .char '\n']
      else return []
  | none => return []

def atMark (mark : Char) : Scan Bool := do
  let _ ← peek 2
  if (← get).rest.take 3 == [.char mark, .char mark, .char mark] then gapAt 3 else return false

def atAnyMark : Scan Bool := do return (← atMark '-') || (← atMark '.')

def emit (t : Token) : Scan Unit := modify fun s => { s with tokens := s.tokens ++ [t] }

def allowKey (b : Bool) : Scan Unit := modify fun s => { s with keyAllowed := b }

def toNextToken : (fuel : Nat) → Scan Unit
  | 0 => return
  | fuel + 1 => do
      let _ ← takeWhile (· = .char ' ')
      skipComment
      if (← lineBreak).isEmpty then return
      if (← get).flow = 0 then allowKey true
      toNextToken fuel

/-- Drops the open keys that are too far back; one that is required must not be. -/
def dropStale : Scan Unit := do
  let s ← get
  let stale (k : OpenKey) := k.line != s.line || 1024 < s.index - k.index
  if s.openKeys.any fun (_, k) => stale k && k.required then malformed
  set { s with openKeys := s.openKeys.filter fun (_, k) => !stale k }

def dropKey : Scan Unit := do
  let s ← get
  if (s.openKeys.lookup s.flow).any (·.required) then malformed
  set { s with openKeys := s.openKeys.filter fun (level, _) => level != s.flow }

def openKey : Scan Unit := do
  let s ← get
  if s.keyAllowed then
    dropKey
    let k : OpenKey := {
      before := s.taken + s.tokens.length, required := s.flow = 0 && s.indent = s.column
      index := s.index, line := s.line, column := s.column }
    modify fun s => { s with openKeys := (s.flow, k) :: s.openKeys }

def closeBlocks (column : Int) : List Int → Scan Unit
  | [] => return
  | outer :: rest => do
      let s ← get
      if s.flow = 0 ∧ column < s.indent then
        set { s with indent := outer, indents := rest, tokens := s.tokens ++ [Token.blockEnd] }
        closeBlocks column rest

def close (column : Int) : Scan Unit := do closeBlocks column (← get).indents

def deepen (column : Nat) : Scan Bool := do
  let s ← get
  if s.indent < column then
    set { s with indent := column, indents := s.indent :: s.indents }
    return true
  else return false

def insert (n : Nat) (ts : List Token) : Scan Unit :=
  modify fun s =>
    let (before, behind) := s.tokens.splitAt (n - s.taken)
    { s with tokens := before ++ ts ++ behind }

/-- The breaks after a line of a flow scalar; a document's mark must not come here. -/
def quotedBreaks : (fuel : Nat) → Scan Text
  | 0 => return []
  | fuel + 1 => do
      if ← atAnyMark then malformed
      let _ ← takeWhile (isOneOf " \t")
      let found ← lineBreak
      if found.isEmpty then return []
      return found ++ (← quotedBreaks fuel)

/-- Lines are folded: one break is a space, of more the first is dropped. -/
def folded (first : Text) (more : Text) : Text :=
  (if first != [.char '\n'] then first else if more.isEmpty then [.char ' '] else []) ++ more

def quotedBlanks (fuel : Nat) : Scan Text := do
  let blanks ← takeWhile (isOneOf " \t")
  if (← peek 0).isNone then malformed
  let first ← lineBreak
  if first.isEmpty then return blanks
  return folded first (← quotedBreaks fuel)

def letterEscapes : List (Char × Nat) := [
  ('0', 0), ('a', 7), ('b', 8), ('t', 9), ('\t', 9), ('n', 10), ('v', 11), ('f', 12), ('r', 13),
  ('e', 27), (' ', 32), ('\x22', 34), ('\\', 92), ('/', 47), ('N', 0x85), ('_', 0xA0),
  ('L', 0x2028), ('P', 0x2029)]

def escapeWidths : List (Char × Nat) := [('x', 2), ('u', 4), ('U', 8)]

def hexNumber (width : Nat) : Scan Nat := do
  let digits := ((← get).rest.take width).map CodePoint.hexDigit?
  if digits.any Option.isNone then malformed
  if digits.length < width then
    let _ ← peek digits.length
    malformed
  return digits.foldl (fun n d => 16 * n + d.getD 0) 0

def escape (fuel : Nat) : Scan Text := do
  match ← peek 0 with
  | some (.char c) =>
      match letterEscapes.lookup c, escapeWidths.lookup c with
      | some n, _ =>
          forward 1
          return (CodePoint.ofNat? n).toList
      | none, some width =>
          forward 1
          let n ← hexNumber width
          match CodePoint.ofNat? n with
          | some point =>
              forward width
              return [point]
          | none => throw (if n < Nat.pow 2 31 then .badNumber else .tooLarge)
      | none, none =>
          if (← lineBreak).isEmpty then malformed
          quotedBreaks fuel
  | _ => malformed

def quoted (double : Bool) : (fuel : Nat) → Scan Text
  | 0 => malformed
  | fuel + 1 => do
      let quote : CodePoint := if double then .char '\x22' else .char '\x27'
      let start ← takeWhile fun c => !isOneOf "'\"\\ \t" c && !isBreak c
      match ← peek 0 with
      | none => malformed
      | some c =>
          if c = quote then
            if !double ∧ (← peek 1) = some quote then
              forward 2
              return start ++ [quote] ++ (← quoted double fuel)
            else
              forward 1
              return start
          else if isGap c then
            return start ++ (← quotedBlanks fuel) ++ (← quoted double fuel)
          else
            forward 1
            if double ∧ c = .char '\\' then
              return start ++ (← escape fuel) ++ (← quoted double fuel)
            else return start ++ [c] ++ (← quoted double fuel)

/-- How much of the text here belongs to a plain scalar, before a gap, an end or an indicator. -/
def plainRun (inFlow : Bool) : Text → Nat
  | [] => 0
  | c :: s =>
      let ends : Bool :=
        isGap c ||
          c = .char ':' && s.head?.all (fun d => isGap d || inFlow && isOneOf ",[]\x7b\x7d" d) ||
          inFlow && isOneOf ",?[]\x7b\x7d" c
      if ends then 0 else plainRun inFlow s + 1

/-- The breaks after the first in a plain scalar, or nothing at a document's mark. -/
def plainBreaks : (fuel : Nat) → Scan (Option Text)
  | 0 => return some []
  | fuel + 1 => do
      if ← atAnyMark then return none
      let _ ← takeWhile (· = .char ' ')
      let found ← lineBreak
      if found.isEmpty then return some []
      match ← plainBreaks fuel with
      | some more => return some (found ++ more)
      | none => return none

/-- Blanks in a plain scalar, or a fold of lines; nothing ends the scalar. -/
def plainBlanks (fuel : Nat) : Scan Text := do
  let blanks ← takeWhile (· = .char ' ')
  let first ← lineBreak
  if first.isEmpty then return blanks
  allowKey true
  match ← plainBreaks fuel with
  | some more => return folded first more
  | none => return []

def plain (indent : Int) (before : Text) : (fuel : Nat) → Scan Text
  | 0 => return []
  | fuel + 1 => do
      if (← peek 0) = some (.char '#') then return []
      let s ← get
      let length := plainRun (s.flow != 0) s.rest
      if (← peek length) = some (.char ':') then
        let _ ← peek (length + 1)
      if length = 0 then return []
      let run := s.rest.take length
      forward length
      allowKey false
      let blanks ← plainBlanks fuel
      let s ← get
      if blanks.isEmpty ∨ (← peek 0) = some (.char '#') ∨ s.flow = 0 ∧ s.column < indent then
        return before ++ run
      else return before ++ run ++ (← plain indent blanks fuel)

def blockBreaks (indent : Nat) : (fuel : Nat) → Scan Text
  | 0 => return []
  | fuel + 1 => do
      let s ← get
      let spaces := (s.rest.takeWhile (· = .char ' ')).length
      forward (min spaces (indent - s.column))
      let found ← lineBreak
      if found.isEmpty then return []
      return found ++ (← blockBreaks indent fuel)

def blockStart : (fuel : Nat) → Scan (Text × Nat)
  | 0 => return ([], 0)
  | fuel + 1 => do
      let _ ← takeWhile (· = .char ' ')
      let here := (← get).column
      let found ← lineBreak
      if found.isEmpty then return ([], here)
      let (more, deepest) ← blockStart fuel
      return (found ++ more, max here deepest)

/-- The lines of a block scalar with what joins them, and the breaks at its end. -/
def blockLines (fold : Bool) (indent : Nat) :
    (fuel : Nat) → (breaks : Text) → Scan (Text × Text × Text)
  | 0, breaks => return ([], [], breaks)
  | fuel + 1, breaks => do
      let solid := !(← peek 0).any (isOneOf " \t")
      let line ← takeWhile (!isBreak ·)
      let last ← lineBreak
      let more ← blockBreaks indent fuel
      let next ← peek 0
      if (← get).column = indent ∧ next.isSome then
        let solidNext := !next.any (isOneOf " \t")
        let join : Text :=
          if fold ∧ last = [.char '\n'] ∧ solid ∧ solidNext then
            (if more.isEmpty then [.char ' '] else [])
          else last
        let (body, last, tail) ← blockLines fold indent fuel more
        return (breaks ++ line ++ join ++ body, last, tail)
      else return (breaks ++ line, last, more)

inductive Chomping where
  | strip
  | clip
  | keep
  deriving DecidableEq

def chomping? : Scan (Option Chomping) := do
  match ← peek 0 with
  | some (.char '+') => forward 1; return some .keep
  | some (.char '-') => forward 1; return some .strip
  | _ => return none

def increment? : Scan (Option Nat) := do
  match (← peek 0).bind CodePoint.asciiDigit? with
  | some 0 => malformed
  | some n => forward 1; return some n
  | none => return none

def blockHeader : Scan (Chomping × Option Nat) := do
  match ← chomping? with
  | some c => return (c, ← increment?)
  | none =>
      let n ← increment?
      let c ← if n.isSome then chomping? else pure none
      return (c.getD .clip, n)

def block (fold : Bool) (fuel : Nat) : Scan Text := do
  let (chomping, increment) ← blockHeader
  unless ← atSpace do malformed
  let _ ← takeWhile (· = .char ' ')
  skipComment
  unless (← peek 0).all isBreak do malformed
  let _ ← lineBreak
  let least := (max 1 ((← get).indent + 1)).toNat
  let (breaks, indent) ←
    match increment with
    | none => do
        let (breaks, deepest) ← blockStart fuel
        pure (breaks, max least deepest)
    | some n => do
        let indent := least + n - 1
        pure (← blockBreaks indent fuel, indent)
  let next ← peek 0
  let (body, last, tail) ←
    if (← get).column = indent ∧ next.isSome then blockLines fold indent fuel breaks
    else pure ([], [], breaks)
  return body ++ (if chomping = .strip then [] else last) ++ (if chomping = .keep then tail else [])

def isNamePoint (c : CodePoint) : Bool :=
  c.isAscii && (c.asciiDigit?.isSome || isOneOf "-_" c ||
    0x41 ≤ c.toNat && c.toNat ≤ 0x5A || 0x61 ≤ c.toNat && c.toNat ≤ 0x7A)

def anchorName : Scan Text := do
  let found ← takeWhile isNamePoint
  let ended := (← peek 0).all fun c => isGap c || isOneOf "?:,]\x7d%@\x60" c
  if found.isEmpty ∨ !ended then malformed
  return found

def isTagPoint (c : CodePoint) : Bool := isNamePoint c || isOneOf ";/?:@&=+$,_.!~*'()[]" c

def escapedBytes : (fuel : Nat) → Scan Bytes
  | 0 => return []
  | fuel + 1 => do
      if (← peek 0) ≠ some (.char '%') then return []
      forward 1
      let n ← hexNumber 2
      forward 2
      return .ofNat n :: (← escapedBytes fuel)

def tagPoints : (fuel : Nat) → Scan Text
  | 0 => return []
  | fuel + 1 => do
      let found ← takeWhile isTagPoint
      if (← peek 0) ≠ some (.char '%') then return found
      match Utf8.decode? (← escapedBytes fuel) with
      | some s => return found ++ s ++ (← tagPoints fuel)
      | none => malformed

def tagPart : Scan Text := do
  let found ← tagPoints (← fuel)
  if found.isEmpty then malformed
  return found

def tagToken : Scan Token := do
  if (← peek 0) = some (.char '<') then
    forward 1
    let suffix ← tagPart
    if (← peek 0) ≠ some (.char '>') then malformed
    forward 1
    return .tag none suffix
  else if ← gapAt 0 then return .tag none [.char '!']
  else
    let word := (← get).rest.takeWhile fun c => c ≠ .char '!' && c ≠ .char ' ' && !isBreak c
    if (← peek word.length) = some (.char '!') then
      unless word.all isNamePoint do malformed
      forward (word.length + 1)
      return .tag (some (.char '!' :: word ++ [.char '!'])) (← tagPart)
    else return .tag (some [.char '!']) (← tagPart)

def endBlocks : Scan Unit := do
  close (-1)
  dropKey
  allowKey false

def openFlow (t : Token) : Scan Unit := do
  openKey
  modify fun s => { s with flow := s.flow + 1 }
  allowKey true
  forward 1
  emit t

def closeFlow (t : Token) : Scan Unit := do
  dropKey
  modify fun s => { s with flow := s.flow - 1 }
  allowKey false
  forward 1
  emit t

/-- Begins a block here, unless it goes on or stands in brackets; nothing may come before it. -/
def beginBlock (t : Token) : Scan Unit := do
  let s ← get
  if s.flow = 0 then
    unless s.keyAllowed do malformed
    if ← deepen s.column then emit t

def itemMark : Scan Unit := do
  beginBlock .blockList
  allowKey true
  dropKey
  forward 1
  emit .item

def keyMark : Scan Unit := do
  beginBlock .blockTable
  allowKey ((← get).flow = 0)
  dropKey
  forward 1
  emit .key

/-- A colon: what the open key of this level began is a key after all. -/
def valueMark : Scan Unit := do
  let s ← get
  match s.openKeys.lookup s.flow with
  | some k =>
      modify fun s => { s with openKeys := s.openKeys.filter fun (level, _) => level != s.flow }
      let deeper ← if s.flow = 0 then deepen k.column else pure false
      insert k.before (if deeper then [.blockTable, .key] else [.key])
      allowKey false
  | none =>
      beginBlock .blockTable
      allowKey (s.flow = 0)
      dropKey
  forward 1
  emit .value

def comma : Scan Unit := do
  allowKey true
  dropKey
  forward 1
  emit .comma

def blockScalar (fold : Bool) (fuel : Nat) : Scan Unit := do
  allowKey true
  dropKey
  forward 1
  emit (.scalar false (← block fold fuel))

def inKey (read : Scan Token) : Scan Unit := do
  openKey
  allowKey false
  emit (← read)

def plainToken (fuel : Nat) : Scan Token := do
  return .scalar true (← plain ((← get).indent + 1) [] fuel)

def beginsPlain (inFlow : Bool) (c : CodePoint) (gap : Bool) : Bool :=
  !isGap c && !isOneOf "-?:,[]\x7b\x7d#&*!|>'\"%@\x60" c ||
    !gap && (c = .char '-' || !inFlow && isOneOf "?:" c)

def restOfLine : Scan Unit := do
  let _ ← takeWhile (· = .char ' ')
  skipComment
  unless (← peek 0).all isBreak do malformed
  let _ ← lineBreak

def versionNumber : Scan Nat := do
  let digits := (← takeWhile (·.asciiDigit?.isSome)).filterMap CodePoint.asciiDigit?
  if digits.isEmpty then malformed
  match ofDigits? digits with
  | .ok n => return n
  | .error _ => throw .badNumber

def versionDirective : Scan Directive := do
  let _ ← takeWhile (· = .char ' ')
  let major ← versionNumber
  if (← peek 0) ≠ some (.char '.') then malformed
  forward 1
  let _ ← versionNumber
  return .version major

def handleDirective : Scan Directive := do
  let _ ← takeWhile (· = .char ' ')
  if (← peek 0) ≠ some (.char '!') then malformed
  forward 1
  let word ← takeWhile isNamePoint
  let mark : Text := if (← peek 0) = some (.char '!') then [.char '!'] else []
  if mark.isEmpty ∧ !word.isEmpty then malformed
  forward mark.length
  if (← peek 0) ≠ some (.char ' ') then malformed
  let _ ← takeWhile (· = .char ' ')
  let lead ← tagPart
  return .handle (.char '!' :: word ++ mark) lead

def directive : Scan Unit := do
  endBlocks
  forward 1
  let name ← takeWhile isNamePoint
  if name.isEmpty then malformed
  unless ← atSpace do malformed
  let d ←
    if name = text "YAML" then versionDirective
    else if name = text "TAG" then handleDirective
    else do
      skipLine
      pure .other
  unless ← atSpace do malformed
  restOfLine
  emit (.directive d)

def documentMark (t : Token) : Scan Unit := do
  endBlocks
  forward 3
  emit t

def token (c : CodePoint) : Scan Unit := do
  let s ← get
  let fuel ← fuel
  let first := s.column = 0
  let inFlow := s.flow != 0
  let atStart ← if first ∧ c = .char '-' then atMark '-' else pure false
  let atEnd ← if first ∧ c = .char '.' then atMark '.' else pure false
  let gap ← if c = .char '-' ∨ !inFlow ∧ isOneOf "?:" c then gapAt 1 else pure false
  if first ∧ c = .char '%' then directive
  else if atStart then documentMark .documentStart
  else if atEnd then documentMark .documentEnd
  else if c = .char '[' then openFlow .flowList
  else if c = .char '\x7b' then openFlow .flowTable
  else if c = .char ']' then closeFlow .flowListEnd
  else if c = .char '\x7d' then closeFlow .flowTableEnd
  else if c = .char ',' then comma
  else if c = .char '-' ∧ gap then itemMark
  else if c = .char '?' ∧ (inFlow ∨ gap) then keyMark
  else if c = .char ':' ∧ (inFlow ∨ gap) then valueMark
  else if c = .char '*' then inKey do
    forward 1
    return .alias (← anchorName)
  else if c = .char '&' then inKey do
    forward 1
    return .anchor (← anchorName)
  else if c = .char '!' then inKey do
    forward 1
    let t ← tagToken
    unless ← atSpace do malformed
    return t
  else if c = .char '|' ∧ !inFlow then blockScalar false fuel
  else if c = .char '>' ∧ !inFlow then blockScalar true fuel
  else if c = .char '\x27' then inKey do
    forward 1
    return .scalar false (← quoted false fuel)
  else if c = .char '\x22' then inKey do
    forward 1
    return .scalar false (← quoted true fuel)
  else if beginsPlain inFlow c gap then inKey (plainToken fuel)
  else
    let _ ← peek 1
    malformed

def fetch : Scan Unit := do
  toNextToken (← fuel)
  dropStale
  close (← get).column
  match ← peek 0 with
  | some c => token c
  | none =>
      close (-1)
      dropKey
      modify fun s => { s with openKeys := [], ended := true }

/-- Whether more must be read to know the next token: there is none, or it may begin a key. -/
def isBehind : Scan Bool := do
  if (← get).ended then return false
  if (← get).tokens.isEmpty then return true
  dropStale
  let s ← get
  return (s.openKeys.map (·.2.before)).min? = some s.taken

def catchUp : (fuel : Nat) → Scan Unit
  | 0 => return
  | fuel + 1 => do
      if ← isBehind then
        fetch
        catchUp fuel

def nextToken : Scan (Option Token) := do
  catchUp (← fuel)
  return (← get).tokens.head?

def takeToken : Scan Unit :=
  modify fun s => { s with tokens := s.tokens.drop 1, taken := s.taken + 1 }

/-- A scanner at the start of a text; a mark of the order of bytes is no part of it. -/
def start (s : Source) : Scanner :=
  let rest := if s.text.head?.any (·.toNat = 0xFEFF) then s.text.drop 1 else s.text
  { rest, fault := s.fault, size := rest.length }

end Scan

end Breadboard.Yaml
