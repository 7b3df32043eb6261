import Breadboard.Pattern.Basic
import Breadboard.Number.Numeral
import Breadboard.Text.Identifier
import Breadboard.Text.Name

/-! The notation of patterns, read into trees. A pattern is read once from left to right; a group
may be referred to as soon as it is closed, and a condition may name a group that is yet to come.
Alternatives share their common beginning, and alternatives of single code points are a set. -/

namespace Breadboard

/-- A pattern with the number of its groups, and whether its flags ask for ASCII classes. -/
structure Regex where
  pattern : Pattern
  groups : Nat
  ascii : Bool
  deriving Inhabited

namespace Regex

inductive Fault where
  | malformed
  /-- A repetition of more than the most that is counted. -/
  | tooMany
  /-- Flags that exclude each other, or a number of too many digits. -/
  | invalid
  /-- A group inside too many others. -/
  | tooDeep
  deriving DecidableEq, Repr

/-- A code point, alone or after a backslash; a backslash at the end of the text escapes none. -/
inductive Token where
  | plain (c : CodePoint)
  | escaped (c : CodePoint)
  | dangling
  deriving DecidableEq

def tokens : Text → List Token
  | [] => []
  | .char '\\' :: [] => [.dangling]
  | .char '\\' :: c :: s => .escaped c :: tokens s
  | c :: s => .plain c :: tokens s

/-- The flags that hold for a part of a pattern, and how many groups are around it. -/
structure Scope where
  levels : Nat := 0
  ignoreCase : Bool := false
  multiLine : Bool := false
  dotAll : Bool := false
  verbose : Bool := false
  ascii : Bool := false

def Scope.rule (scope : Scope) : CaseRule :=
  if scope.ignoreCase then (if scope.ascii then .ascii else .any) else .exact

structure Progress where
  rest : List Token
  /-- The widths of the groups opened so far; an open one has none yet. -/
  widths : List (Option Width) := []
  names : List (Text × Nat) := []
  /-- How many groups there were when the outermost lookbehind began. -/
  fence : Option Nat := none
  /-- The groups that conditions name by number. -/
  awaited : List Nat := []
  /-- Whether a lookbehind has no fixed width. -/
  loose : Bool := false
  repeats : Bool := false
  /-- The letters of the flags for the whole pattern. -/
  letters : List Char := []

abbrev Reader := StateT Progress (Except Fault)

namespace Reader

def peek : Reader (Option Token) := return (← get).rest.head?

/-- Goes on by one token. A backslash that escapes none is a fault as soon as it comes next. -/
def advance : Reader Unit := do
  let p ← get
  let rest := p.rest.drop 1
  if rest.head? = some .dangling then throw .malformed
  set { p with rest }

def take? : Reader (Option Token) := do
  let t ← peek
  advance
  return t

def accept (c : Char) : Reader Bool := do
  if (← peek) = some (.plain c) then
    advance
    return true
  else return false

def expect (c : Char) : Reader Unit := do
  unless ← accept c do throw .malformed

def takeWhile (test : CodePoint → Bool) : (most : Nat) → Reader Text
  | 0 => return []
  | most + 1 => do
      match ← peek with
      | some (.plain c) =>
          if test c then
            advance
            return c :: (← takeWhile test most)
          else return []
      | _ => return []

/-- The text up to a closing code point, which is taken too; it must not be empty. -/
def takeUntil (close : Char) : (most : Nat) → Reader Text
  | 0 => throw .malformed
  | most + 1 => do
      match ← take? with
      | some (.plain c) =>
          if c = .char close then return [] else return c :: (← takeUntil close most)
      | some (.escaped c) => return .char '\\' :: c :: (← takeUntil close most)
      | _ => throw .malformed

def name (close : Char) : Reader Text := do
  let found ← takeUntil close ((← get).rest.length + 1)
  if found.isEmpty then throw .malformed
  return found

end Reader

open Reader

def isAsciiDigit (c : CodePoint) : Bool := c.asciiDigit?.isSome

def isOctal (c : CodePoint) : Bool := c.asciiDigit?.any (· < 8)

def octalOf (s : Text) : Nat := s.foldl (fun n c => 8 * n + c.asciiDigit?.getD 0) 0

def hexOf (s : Text) : Nat := s.foldl (fun n c => 16 * n + c.hexDigit?.getD 0) 0

def closed? (p : Progress) (n : Nat) : Option Width :=
  if n = 0 then none else (p.widths[n - 1]?).join

/-- Inside a lookbehind only groups may be referred to that were closed before it. -/
def checkFence (n : Nat) : Reader Unit := do
  let p ← get
  match p.fence with
  | none => return
  | some fence => if (closed? p n).isNone ∨ fence ≤ n then throw .malformed

def letterEscape? : Char → Option Char
  | 'a' => some '\x07'
  | 'f' => some '\x0c'
  | 'n' => some '\n'
  | 'r' => some '\r'
  | 't' => some '\t'
  | 'v' => some '\x0b'
  | '\\' => some '\\'
  | _ => none

def classEscape? : Char → Option SetItem
  | 'd' => some (.cls .digit true)
  | 'D' => some (.cls .digit false)
  | 's' => some (.cls .blank true)
  | 'S' => some (.cls .blank false)
  | 'w' => some (.cls .word true)
  | 'W' => some (.cls .word false)
  | _ => none

def numberedWidth? : Char → Option Nat
  | 'x' => some 2
  | 'u' => some 4
  | 'U' => some 8
  | _ => none

def numbered (width : Nat) : Reader CodePoint := do
  let digits ← Reader.takeWhile (·.hexDigit?.isSome) width
  if digits.length ≠ width then throw .malformed
  match CodePoint.ofNat? (hexOf digits) with
  | some c => return c
  | none => throw .malformed

def named : Reader CodePoint := do
  if (← take?) ≠ some (.plain (.char '\x7b')) then throw .malformed
  match Name.find? (← name '\x7d') with
  | some c => return c
  | none => throw .malformed

/-- What an escape stands for that is neither a class nor a place nor a reference. -/
def pointEscape (c : CodePoint) : Reader CodePoint := do
  match c with
  | .lone _ => return c
  | .char letter =>
      match letterEscape? letter, numberedWidth? letter with
      | some d, _ => return .char d
      | none, some width => numbered width
      | none, none =>
          if letter = 'N' then named
          else if letter.isAlphanum then throw .malformed
          else return c

def octal (first : CodePoint) : Reader CodePoint := do
  let more ← Reader.takeWhile isOctal 2
  let n := octalOf (first :: more)
  match CodePoint.ofNat? n with
  | some c => if 0o377 < n then throw .malformed else return c
  | none => throw .malformed

def reference (scope : Scope) (n : Nat) : Reader Pattern := do
  let p ← get
  if (closed? p n).isNone then throw .malformed
  checkFence n
  return .backref n scope.rule

/-- An escape that begins with a digit from 1 to 9: three octal digits, or a reference to a group
by one digit or two. -/
def digitEscape (scope : Scope) (a : CodePoint) : Reader Pattern := do
  match ← peek with
  | some (.plain b) =>
      if isAsciiDigit b then
        advance
        match ← peek with
        | some (.plain c) =>
            if isOctal a ∧ isOctal b ∧ isOctal c then
              advance
              let n := octalOf [a, b, c]
              if 0o377 < n then throw .malformed
              return .point (.one false (.char (.ofNat n)) scope.rule)
        | _ => pure ()
        reference scope (10 * a.asciiDigit?.getD 0 + b.asciiDigit?.getD 0)
      else reference scope (a.asciiDigit?.getD 0)
  | _ => reference scope (a.asciiDigit?.getD 0)

def anchorEscape? (scope : Scope) : Char → Option Anchor
  | 'A' => some .start
  | 'Z' => some .stop
  | 'b' => some (.wordEdge scope.ascii)
  | 'B' => some (.noWordEdge scope.ascii)
  | _ => none

/-- What a part of a sequence is to a repetition that comes after it. -/
inductive Role where
  | anchor
  | repeated
  | other
  deriving DecidableEq

/-- A part of a sequence. A group without a number or flags is no more than what stands in it. -/
abbrev Part := Role × List Pattern

def escape (scope : Scope) (c : CodePoint) : Reader Part := do
  let one (c : CodePoint) : Part := (.other, [.point (.one false c scope.rule)])
  match c with
  | .lone _ => return one c
  | .char letter =>
      match anchorEscape? scope letter, classEscape? letter with
      | some a, _ => return (.anchor, [.anchor a])
      | none, some item =>
          return (.other, [.point (.oneOf ⟨false, [item], scope.rule, scope.ascii⟩)])
      | none, none =>
          if letter = '0' then return one (← octal c)
          else if letter.isDigit then return (.other, [← digitEscape scope c])
          else return one (← pointEscape c)

def setEscape (c : CodePoint) : Reader SetItem := do
  match c with
  | .lone _ => return .one c
  | .char 'b' => return .one (.char '\x08')
  | .char letter =>
      match classEscape? letter with
      | some item => return item
      | none => if isOctal c then return .one (← octal c) else return .one (← pointEscape c)

def setMember : Token → Reader SetItem
  | .plain c => return .one c
  | .escaped c => setEscape c
  | .dangling => throw .malformed

/-- The members of a set up to its bracket. A bracket that comes first is a member. -/
def setItems : (most : Nat) → (first : Bool) → Reader (List SetItem)
  | 0, _ => throw .malformed
  | most + 1, first => do
      match ← take? with
      | none => throw .malformed
      | some t =>
          if t = .plain ']' ∧ !first then return []
          let item ← setMember t
          if ← accept '-' then
            match ← take? with
            | none => throw .malformed
            | some (.plain ']') => return [item, .one (.char '-')]
            | some u =>
                match item, ← setMember u with
                | .one low, .one high =>
                    if high.toNat < low.toNat then throw .malformed
                    return .range low.toNat high.toNat :: (← setItems most false)
                | _, _ => throw .malformed
          else return item :: (← setItems most false)

/-- A set; one of a single code point is that code point, or any other. -/
def pointSet (scope : Scope) : Reader Pattern := do
  let negated ← accept '^'
  match (← setItems ((← get).rest.length + 1) true).eraseDups with
  | [.one c] => return .point (.one negated c scope.rule)
  | items => return .point (.oneOf ⟨negated, items, scope.rule, scope.ascii⟩)

def mostCounted : Nat := 4294967295

def bound (digits : Text) : Reader (Option Nat) := do
  if digits.isEmpty then return none
  match ofDigits? (digits.filterMap CodePoint.asciiDigit?) with
  | .error _ => throw .invalid
  | .ok n => if mostCounted ≤ n then throw .tooMany else return some n

def bounds? : Reader (Option (Nat × Option Nat)) := do
  let here := (← get).rest
  if here.head? = some (.plain '\x7d') then return none
  let low ← Reader.takeWhile isAsciiDigit here.length
  let comma ← accept ','
  let high ← if comma then Reader.takeWhile isAsciiDigit here.length else pure low
  if ← accept '\x7d' then
    let least := (← bound low).getD 0
    let most ← bound high
    if most.any (· < least) then throw .malformed
    return some (least, most)
  else
    modify fun p => { p with rest := here }
    return none

def eagerness : Reader Eagerness := do
  if ← accept '?' then return .lazy
  else if ← accept '+' then return .possessive
  else return .greedy

/-- Repeats the last part of a sequence; an anchor or a repetition cannot be repeated. -/
def repeatLast (least : Nat) (most : Option Nat) : List Part → Reader (List Part)
  | (.other, ps) :: parts => do
      let e ← eagerness
      modify fun p => { p with repeats := true }
      return (.repeated, [.rep e least most (.joined ps)]) :: parts
  | _ => throw .malformed

def members? : List Pattern → Option (List SetItem)
  | [.point (.one false c _)] => some [.one c]
  | [.point (.oneOf set)] => if set.negated then none else some set.items
  | _ => none

def fork (scope : Scope) (ways : List (List Pattern)) : Pattern :=
  match ways.mapM members? with
  | some items => .point (.oneOf ⟨false, items.flatten.eraseDups, scope.rule, scope.ascii⟩)
  | none => .alternatives (ways.map .joined)

/-- What a sequence goes on with after a step, if it begins with that step. -/
def after? (step : Pattern) : List Pattern → Option (List Pattern)
  | [] => none
  | p :: ps => if step.isStep && p = step then some ps else none

/-- The choice between a first sequence and others. Steps that all of them begin with come first. -/
def merged (scope : Scope) : List Pattern → List (List Pattern) → List Pattern
  | [], others => [fork scope ([] :: others)]
  | p :: ps, others =>
      match (if p.isStep then others.mapM (after? p) else none) with
      | some rests => p :: merged scope ps rests
      | none => [fork scope ((p :: ps) :: others)]

def isFlag (c : CodePoint) : Bool := "imsxatuL".toList.any fun letter => c = .char letter

def letters (s : Text) : List Char :=
  s.filterMap fun | .char c => some c | .lone _ => none

def Scope.on (scope : Scope) (on : List Char) : Scope :=
  { scope with
    ignoreCase := scope.ignoreCase || on.elem 'i'
    multiLine := scope.multiLine || on.elem 'm'
    dotAll := scope.dotAll || on.elem 's'
    verbose := scope.verbose || on.elem 'x'
    ascii := on.elem 'a' || scope.ascii && !on.elem 'u' }

def Scope.off (scope : Scope) (off : List Char) : Scope :=
  { scope with
    ignoreCase := scope.ignoreCase && !off.elem 'i'
    multiLine := scope.multiLine && !off.elem 'm'
    dotAll := scope.dotAll && !off.elem 's'
    verbose := scope.verbose && !off.elem 'x' }

/-- What flags in a group mean: for the rest of the pattern, or for the group alone. -/
inductive Flags where
  | whole (on : List Char)
  | body (on off : List Char)

def flags : Reader Flags := do
  let length := (← get).rest.length
  let on := letters (← Reader.takeWhile isFlag length)
  if on.elem 'L' ∨ on.elem 'a' ∧ on.elem 'u' then throw .malformed
  match ← take? with
  | some (.plain ')') => return .whole on
  | some (.plain ':') => if on.elem 't' then throw .malformed else return .body on []
  | some (.plain '-') =>
      let off := letters (← Reader.takeWhile isFlag length)
      expect ':'
      let refused := off.any fun c => "atuL".toList.elem c || on.elem c
      if on.elem 't' ∨ off.isEmpty ∨ refused then throw .malformed
      return .body on off
  | _ => throw .malformed

def skipComment : (most : Nat) → Reader Unit
  | 0 => throw .malformed
  | most + 1 => do
      match ← take? with
      | none => throw .malformed
      | some t => unless t = .plain ')' do skipComment most

def skipLine : (most : Nat) → Reader Unit
  | 0 => return
  | most + 1 => do
      match ← take? with
      | none => return
      | some t => unless t = .plain '\n' do skipLine most

def isLayout (t : Token) : Bool :=
  " \t\n\r\x0b\x0c".toList.any fun c => t = .plain (.char c)

def openGroup (label : Option Text) : Reader Nat := do
  let p ← get
  let n := p.widths.length + 1
  match label with
  | none => modify fun p => { p with widths := p.widths ++ [none] }
  | some label =>
      if (p.names.lookup label).isSome then throw .malformed
      modify fun p => { p with widths := p.widths ++ [none], names := (label, n) :: p.names }
  return n

def widthOf (p : Progress) (body : Pattern) : Width :=
  body.width fun n => (closed? p n).getD (0, none)

def closeGroup (n : Nat) (body : Pattern) : Reader Unit :=
  modify fun p => { p with widths := p.widths.set (n - 1) (some (widthOf p body)) }

def identifier (close : Char) : Reader Text := do
  let found ← name close
  unless found.isIdentifier do throw .malformed
  return found

def conditionGroup : Reader Nat := do
  let found ← name ')'
  if found.isIdentifier then
    match (← get).names.lookup found with
    | some n => return n
    | none => throw .malformed
  else
    match readInteger found with
    | .ok (.ofNat (n + 1)) =>
        modify fun p => { p with awaited := (n + 1) :: p.awaited }
        return n + 1
    | _ => throw .malformed

/-- A lookbehind of a body that always takes the same number of code points. -/
def behind (positive : Bool) (body : Pattern) : Reader Pattern := do
  match widthOf (← get) body with
  | (least, some most) =>
      if least = most ∧ least ≤ mostCounted then return .look (.behind least) positive body
  | _ => pure ()
  modify fun p => { p with loose := true }
  return .empty

/-- What a part of a sequence comes to: a part, nothing, or flags for all that follows. -/
inductive Piece where
  | part (p : Part)
  | nothing
  | flags (on : List Char)

def mostLevels : Nat := 490

mutual
def alternatives : (fuel : Nat) → Scope → (top : Bool) → Reader (List Pattern)
  | 0, _, _ => throw .malformed
  | fuel + 1, scope, top => do
      if mostLevels < scope.levels then throw .tooDeep
      let (first, scope) ← sequence fuel scope top []
      match ← others fuel scope with
      | [] => return first
      | rest => return merged scope first rest

def others : (fuel : Nat) → Scope → Reader (List (List Pattern))
  | 0, _ => throw .malformed
  | fuel + 1, scope => do
      if ← accept '|' then
        let (next, _) ← sequence fuel scope false []
        return next :: (← others fuel scope)
      else return []

/-- A sequence, given its parts so far, the last of them first; flags for the whole pattern may
only come before the first part of all. -/
def sequence : (fuel : Nat) → Scope → (top : Bool) → List Part → Reader (List Pattern × Scope)
  | 0, _, _, _ => throw .malformed
  | fuel + 1, scope, top, parts => do
      match ← peek with
      | none | some (.plain '|') | some (.plain ')') =>
          return (parts.reverse.flatMap (·.2), scope)
      | some t =>
          advance
          if scope.verbose ∧ isLayout t then sequence fuel scope top parts
          else if scope.verbose ∧ t = .plain '#' then
            skipLine (← get).rest.length.succ
            sequence fuel scope top parts
          else
            let other (p : Pattern) := sequence fuel scope top ((.other, [p]) :: parts)
            let anchor (a : Anchor) := sequence fuel scope top ((.anchor, [.anchor a]) :: parts)
            let again (least : Nat) (most : Option Nat) := do
              sequence fuel scope top (← repeatLast least most parts)
            match t with
            | .dangling => throw .malformed
            | .escaped c => sequence fuel scope top ((← escape scope c) :: parts)
            | .plain '[' => other (← pointSet scope)
            | .plain '.' => other (.point (.any scope.dotAll))
            | .plain '^' => anchor (if scope.multiLine then .lineStart else .start)
            | .plain '$' => anchor (if scope.multiLine then .lineStop else .lastLine)
            | .plain '*' => again 0 none
            | .plain '+' => again 1 none
            | .plain '?' => again 0 (some 1)
            | .plain '\x7b' =>
                match ← bounds? with
                | some (least, most) => again least most
                | none => other (.point (.one false (.char '\x7b') scope.rule))
            | .plain '(' =>
                match ← parenthesis fuel scope with
                | .part p => sequence fuel scope top (p :: parts)
                | .nothing => sequence fuel scope top parts
                | .flags on =>
                    if !top ∨ !parts.isEmpty then throw .malformed
                    modify fun p => { p with letters := on ++ p.letters }
                    sequence fuel (scope.on on) top parts
            | .plain c => other (.point (.one false c scope.rule))

def parenthesis : (fuel : Nat) → Scope → Reader Piece
  | 0, _ => throw .malformed
  | fuel + 1, scope => do
      let scope := { scope with levels := scope.levels + 1 }
      let other (p : Pattern) : Piece := .part (.other, [p])
      if !(← accept '?') then capture fuel scope none
      else
        match ← peek with
        | some (.plain 'P') =>
            advance
            if ← accept '<' then capture fuel scope (some (← identifier '>'))
            else
              expect '='
              match (← get).names.lookup (← identifier ')') with
              | some n => return other (← reference scope n)
              | none => throw .malformed
        | some (.plain ':') =>
            advance
            return .part (.other, ← body fuel scope)
        | some (.plain '>') =>
            advance
            return other (.atomic (.joined (← body fuel scope)))
        | some (.plain '#') =>
            advance
            skipComment (← get).rest.length.succ
            return .nothing
        | some (.plain '=') =>
            advance
            return other (.look .ahead true (.joined (← body fuel scope)))
        | some (.plain '!') =>
            advance
            return other (.look .ahead false (.joined (← body fuel scope)))
        | some (.plain '<') =>
            advance
            let positive ← accept '='
            unless positive do expect '!'
            let fence := (← get).fence
            modify fun p => { p with fence := fence.orElse fun _ => some (p.widths.length + 1) }
            let ps ← alternatives fuel scope false
            modify fun p => { p with fence }
            expect ')'
            return other (← behind positive (.joined ps))
        | some (.plain '(') =>
            advance
            condition fuel scope
        | some (.plain c) =>
            if !isFlag c ∧ c ≠ .char '-' then throw .malformed
            match ← flags with
            | .whole on => return .flags on
            | .body on off =>
                return other (.scope (.joined (← body fuel ((scope.on on).off off))))
        | _ => throw .malformed

def body : (fuel : Nat) → Scope → Reader (List Pattern)
  | 0, _ => throw .malformed
  | fuel + 1, scope => do
      let ps ← alternatives fuel scope false
      expect ')'
      return ps

def capture : (fuel : Nat) → Scope → (label : Option Text) → Reader Piece
  | 0, _, _ => throw .malformed
  | fuel + 1, scope, label => do
      let n ← openGroup label
      let p := Pattern.joined (← body fuel scope)
      closeGroup n p
      return .part (.other, [.group n p])

def condition : (fuel : Nat) → Scope → Reader Piece
  | 0, _ => throw .malformed
  | fuel + 1, scope => do
      let n ← conditionGroup
      checkFence n
      let (present, _) ← sequence fuel scope false []
      let absent ← if ← accept '|' then pure (← sequence fuel scope false []).1 else pure []
      expect ')'
      return .part (.other, [.branch n (.joined present) (.joined absent)])
end

def read (s : Text) : Except Fault Regex := do
  let all := tokens s
  if all.head? = some .dangling then throw .malformed
  let (ps, p) ← (alternatives (4 * all.length + 4) {} true).run { rest := all }
  let ascii := p.letters.elem 'a'
  if ascii ∧ p.letters.elem 'u' then throw .invalid
  let missing := p.awaited.any (p.widths.length < ·)
  if !p.rest.isEmpty ∨ missing ∨ p.loose ∨ p.letters.elem 't' ∧ p.repeats then throw .malformed
  return ⟨.joined ps, p.widths.length, ascii⟩

end Regex

end Breadboard
