import Breadboard.Text.Blank
import Breadboard.Text.Word
import Breadboard.Text.Digit
import Breadboard.Text.Case

/-! Patterns: what a search looks for in a text. A pattern is a tree; what it matches is said in
`Breadboard.Pattern.Search`. -/

namespace Breadboard

/-- Which code points count as the same: only equal ones, the two cases of an ASCII letter, or all
cases of any letter. -/
inductive CaseRule where
  | exact
  | ascii
  | any
  deriving DecidableEq, Repr, Inhabited

inductive PointClass where
  | digit
  | blank
  | word
  deriving DecidableEq, Repr

inductive SetItem where
  | one (c : CodePoint)
  | range (low high : Nat)
  | cls (c : PointClass) (within : Bool)
  deriving DecidableEq, Repr

/-- A set of code points. In an ASCII set the classes hold ASCII code points only. -/
structure PointSet where
  negated : Bool
  items : List SetItem
  rule : CaseRule
  ascii : Bool
  deriving DecidableEq, Repr

inductive Point where
  | one (negated : Bool) (c : CodePoint) (rule : CaseRule)
  | any (newlines : Bool)
  | oneOf (set : PointSet)
  deriving DecidableEq, Repr

inductive Anchor where
  | start
  | stop
  | lineStart
  | lineStop
  /-- The end, or the line feed that ends the text. -/
  | lastLine
  | wordEdge (ascii : Bool)
  | noWordEdge (ascii : Bool)
  deriving DecidableEq, Repr

/-- How often a repetition tries: as often as it can, as rarely as it can, or as often as it can
without ever giving back. -/
inductive Eagerness where
  | greedy
  | lazy
  | possessive
  deriving DecidableEq, Repr

/-- Where an assertion looks: ahead, or behind over a fixed number of code points. -/
inductive Look where
  | ahead
  | behind (width : Nat)
  deriving DecidableEq, Repr

inductive Pattern where
  | empty
  | point (p : Point)
  | anchor (a : Anchor)
  | seq (first second : Pattern)
  /-- The first of several alternatives, and the others. -/
  | alt (first others : Pattern)
  /-- No alternative is left. -/
  | never
  | group (number : Nat) (body : Pattern)
  /-- A part with flags of its own. -/
  | scope (body : Pattern)
  | backref (number : Nat) (rule : CaseRule)
  | rep (eagerness : Eagerness) (least : Nat) (most : Option Nat) (body : Pattern)
  | look (look : Look) (positive : Bool) (body : Pattern)
  | atomic (body : Pattern)
  | branch (number : Nat) (present absent : Pattern)
  deriving DecidableEq, Repr, Inhabited

namespace CaseRule

def lowered : CaseRule → CodePoint → CodePoint
  | .exact, c => c
  | .ascii, c => if c.isAscii then c.lower else c
  | .any, c => c.lower

def hasOtherCase : CaseRule → CodePoint → Bool
  | .exact, _ => false
  | .ascii, c => c.isAscii && c.hasOtherCase
  | .any, c => c.hasOtherCase

def peers : CaseRule → CodePoint → List CodePoint
  | .any, c => c.peers
  | _, c => [c]

def variants : CaseRule → CodePoint → List CodePoint
  | .exact, c => [c]
  | .ascii, c => if c.isAscii then [c, c.lower, c.upper] else [c]
  | .any, c => c.variants

/-- Whether a pattern's code point `c` stands for `d`. -/
def same (rule : CaseRule) (c d : CodePoint) : Bool :=
  if rule.hasOtherCase c then (rule.peers (rule.lowered c)).elem (rule.lowered d) else c = d

def repeats (rule : CaseRule) (c d : CodePoint) : Bool := rule.lowered c = rule.lowered d

end CaseRule

namespace PointClass

def holds (ascii : Bool) (k : PointClass) (c : CodePoint) : Bool :=
  (!ascii || c.isAscii && !(0x1C ≤ c.toNat && c.toNat ≤ 0x1F)) &&
    match k with
    | .digit => c.isDigit
    | .blank => c.isBlank
    | .word => c.isWord

end PointClass

def lastTabled : Nat := 0xFFFF

namespace SetItem

def hasOtherCase (rule : CaseRule) : SetItem → Bool
  | .one c => rule.hasOtherCase c
  | .range low high =>
      match rule with
      | .exact => false
      | .ascii => low ≤ 0x5A && 0x41 ≤ high || low ≤ 0x7A && 0x61 ≤ high
      | .any => rangeHasOtherCase low high
  | .cls .. => false

def isWide : SetItem → Bool
  | .one c => lastTabled < c.toNat
  | .range _ high => lastTabled < high
  | .cls .. => false

end SetItem

namespace PointSet

def folds (set : PointSet) : Bool :=
  set.rule != .exact && set.items.any fun item => item.hasOtherCase set.rule || item.isWide

/-- Whether a code point, already in lower case if the set asks for it, is in an item. A letter
past the tabled plane is found by itself alone, and by its upper case in a range. -/
def itemHolds (set : PointSet) (c : CodePoint) : SetItem → Bool
  | .one d =>
      if set.folds && d.toNat ≤ lastTabled then
        (set.rule.peers (set.rule.lowered d)).elem c
      else c = d
  | .range low high =>
      let within (d : CodePoint) := low ≤ d.toNat && d.toNat ≤ high
      if set.folds then
        (set.rule.variants c).any within || lastTabled < high && (within c || within c.upper)
      else within c
  | .cls k within => k.holds set.ascii c == within

def holds (set : PointSet) (c : CodePoint) : Bool :=
  let c := if set.folds then set.rule.lowered c else c
  set.items.any (set.itemHolds c) != set.negated

end PointSet

namespace Point

def holds (c : CodePoint) : Point → Bool
  | .one negated d rule => rule.same d c != negated
  | .any newlines => newlines || c != .char '\n'
  | .oneOf set => set.holds c

/-- The code point, if it is a single one that has no other case. -/
def plain? : Point → Option CodePoint
  | .one false c rule => if rule.hasOtherCase c then none else some c
  | _ => none

/-- Whether an alternative that begins with this is passed over where it does not hold. -/
def isQuick (p : Point) : Bool :=
  p.plain?.isSome ||
    match p with
    | .oneOf set => !set.folds
    | _ => false

/-- Whether a row of these is passed over one at a time, each a choice. -/
def isSlow : Point → Bool
  | .one _ c rule => rule.hasOtherCase c && 1 < (rule.peers (rule.lowered c)).length
  | .any _ => false
  | .oneOf set => set.folds

end Point

/-- The least and the most code points a pattern takes; `none` is no bound. -/
abbrev Width := Nat × Option Nat

namespace Width

def add (a b : Width) : Width := (a.1 + b.1, a.2.bind fun x => b.2.map (x + ·))

def either (a b : Width) : Width := (min a.1 b.1, a.2.bind fun x => b.2.map (max x ·))

def repeated (least : Nat) (most : Option Nat) (w : Width) : Width :=
  (least * w.1,
    match most, w.2 with
    | _, some 0 => some 0
    | some 0, _ => some 0
    | some n, some m => some (n * m)
    | _, _ => none)

end Width

def Pattern.width (groups : Nat → Width) : Pattern → Width
  | .empty => (0, some 0)
  | .point _ => (1, some 1)
  | .anchor _ => (0, some 0)
  | .seq a b => (a.width groups).add (b.width groups)
  | .alt a .never => a.width groups
  | .alt a b => (a.width groups).either (b.width groups)
  | .never => (0, some 0)
  | .group _ p => p.width groups
  | .scope p => p.width groups
  | .backref n _ => groups n
  | .rep _ least most p => (p.width groups).repeated least most
  | .look .. => (0, some 0)
  | .atomic p => p.width groups
  | .branch _ p q => (p.width groups).either (q.width groups)

namespace Pattern

def joined : List Pattern → Pattern
  | [] => .empty
  | [p] => p
  | p :: ps => .seq p (joined ps)

def alternatives : List Pattern → Pattern
  | [] => .never
  | p :: ps => .alt p (alternatives ps)

def isVoid : Pattern → Bool
  | .empty => true
  | .scope p => p.isVoid
  | .seq p q => p.isVoid && q.isVoid
  | _ => false

def first? : Pattern → Option Point
  | .point p => some p
  | .scope p => p.first?
  | .seq p q => if p.isVoid then q.first? else p.first?
  | _ => none

def single? : Pattern → Option Point
  | .point p => some p
  | .scope p => p.single?
  | _ => none

def opening? : Pattern → Option PointSet
  | .point (.oneOf set) => some set
  | .seq p _ => p.opening?
  | .group _ p => p.opening?
  | .scope p => p.opening?
  | _ => none

/-- Whether two alternatives may share the pattern as their beginning. -/
def isStep : Pattern → Bool
  | .point _ | .anchor _ | .backref .. => true
  | _ => false

end Pattern

end Breadboard
