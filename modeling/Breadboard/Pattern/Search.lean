import Breadboard.Pattern.Reader

/-! Searching with a pattern. The search goes from left to right and tries the choices of the
pattern in their order; the first way through the whole pattern is the match.

The search keeps notes. They are taken back where a choice fails, but only as far as a repetition
needs it: outside of all repetitions a group that has been marked before keeps its latest marks,
and a repetition that gives nothing back goes on from the last choice of the round that failed. -/

namespace Breadboard

structure Notes where
  /-- The places where groups begin and end: group `n` has the marks `2 * n - 2` and
  `2 * n - 1`. -/
  marks : List (Option Nat)
  /-- The place of the last choice; after a match, the place where it ends. -/
  choice : Nat

structure Outcome where
  passed : Bool
  notes : Notes

structure Goal where
  /-- The code point it begins with, where it is known to begin with a certain one. -/
  opening : Option CodePoint
  run : (place : Nat) → Notes → Outcome

namespace Notes

def choose (place : Nat) (n : Notes) : Notes := { n with choice := place }

def mark (i place : Nat) (n : Notes) : Notes :=
  { n with
    marks :=
      if i < n.marks.length then n.marks.set i (some place)
      else n.marks ++ List.replicate (i - n.marks.length) none ++ [some place] }

/-- The places of a group's latest marks, if the later one is its end. -/
def span? (n : Notes) (group : Nat) : Option (Nat × Nat) :=
  match n.marks[2 * group - 2]?, n.marks[2 * group - 1]? with
  | some (some first), some (some last) => if first ≤ last then some (first, last) else none
  | _, _ => none

/-- The notes after a choice that failed. Inside a repetition every mark is as it was; outside
those set since then for the first time are gone. -/
def undo (nested : Bool) (saved failed : Notes) : Notes :=
  { failed with
    marks := if nested then saved.marks else failed.marks.take saved.marks.length }

end Notes

namespace Outcome

def fail (n : Notes) : Outcome := ⟨false, n⟩

def orElse (o : Outcome) (other : Notes → Outcome) : Outcome :=
  if o.passed then o else other o.notes

def andThen (o : Outcome) (next : (place : Nat) → Notes → Outcome) : Outcome :=
  if o.passed then next o.notes.choice o.notes else o

end Outcome

def Goal.done : Goal := ⟨none, fun i n => ⟨true, n.choose i⟩⟩

namespace Pattern

def openingBefore (p : Pattern) (next : Option CodePoint) : Option CodePoint :=
  if p.isVoid then next else p.first?.bind Point.plain?

end Pattern

section Search

variable (subject : Array CodePoint)

def standsAt (test : CodePoint → Bool) (i : Nat) : Bool := subject[i]?.any test

def isWordAt (ascii : Bool) (i : Nat) : Bool := standsAt subject (PointClass.word.holds ascii) i

def isWordEdge (ascii : Bool) (i : Nat) : Bool :=
  (i != 0 && isWordAt subject ascii (i - 1)) != isWordAt subject ascii i

def Anchor.holdsAt (i : Nat) : Anchor → Bool
  | .start => i = 0
  | .stop => i = subject.size
  | .lineStart => i = 0 || standsAt subject (· = .char '\n') (i - 1)
  | .lineStop => i = subject.size || standsAt subject (· = .char '\n') i
  | .lastLine =>
      i = subject.size || i + 1 = subject.size && standsAt subject (· = .char '\n') i
  | .wordEdge ascii => isWordEdge subject ascii i
  | .noWordEdge ascii => !isWordEdge subject ascii i && subject.size != 0

def recurs (rule : CaseRule) (first : Nat) : (length : Nat) → (i : Nat) → Bool
  | 0, _ => true
  | length + 1, i =>
      match subject[first]?, subject[i]? with
      | some c, some d => rule.repeats c d && recurs rule (first + 1) length (i + 1)
      | _, _ => false

def rowLength (test : CodePoint → Bool) : (most : Nat) → (i : Nat) → Nat
  | 0, _ => 0
  | most + 1, i => if standsAt subject test i then rowLength test most (i + 1) + 1 else 0

/-- Tries a goal after a row of code points, and after shorter ones down to the row's start. -/
def shorten (nested : Bool) (saved : Notes) (start : Nat) (goal : Goal) :
    (more : Nat) → Notes → Outcome
  | more, n =>
      let i := start + more
      let now : Outcome :=
        if goal.opening.all fun c => standsAt subject (· = c) i then
          (goal.run i (n.choose i)).orElse fun failed => .fail (saved.undo nested failed)
        else .fail n
      match more with
      | 0 => now
      | more + 1 => now.orElse fun n => shorten nested saved start goal more n

/-- Tries a goal, then after one code point more, as often as `most` says. -/
def lengthen (nested : Bool) (saved : Notes) (p : Point) (goal : Goal) :
    (most : Nat) → (i : Nat) → Notes → Outcome
  | most, i, n =>
      (goal.run i (n.choose i)).orElse fun failed =>
        let n := (saved.undo nested failed).choose i
        if standsAt subject p.holds i then
          match most with
          | 0 => .fail (if p.isSlow then n.choose (i + 1) else n)
          | most + 1 => lengthen nested saved p goal most (i + 1) n
        else .fail n

def repeated (nested : Bool) (e : Eagerness) (least : Nat) (most : Option Nat) (p : Point)
    (goal : Goal) (i : Nat) (n : Notes) : Outcome :=
  let room := subject.size - i
  if room < least then .fail n
  else
    let limit := match e with
      | .lazy => least
      | _ => (most.getD room).min room
    let length := rowLength subject p.holds limit i
    let n := n.choose (if p.isSlow then i + length else i)
    if length < least then .fail n
    else match e with
      | .greedy => shorten subject nested n (i + least) goal (length - least) n
      | .lazy =>
          lengthen subject nested n p goal ((most.getD subject.size) - least) (i + least) n
      | .possessive => goal.run (i + length) n

variable (nested : Bool) (least : Nat) (most : Option Nat) (body : Goal → Nat → Notes → Outcome)

/-- Repeats a body. A round that took nothing is the last one. -/
def rounds (eager : Bool) (goal : Goal) :
    (fuel done : Nat) → (since : Option Nat) → (i : Nat) → Notes → Outcome
  | 0, _, _, _, n => .fail n
  | fuel + 1, done, since, i, n =>
      let n := n.choose i
      let again (since : Option Nat) :=
        body ⟨none, rounds eager goal fuel (done + 1) since⟩ i n
      let failHere (failed : Notes) : Outcome := .fail (failed.choose i)
      if done < least then (again since).orElse failHere
      else
        let goesOn := most.all (done < ·) && since != some i
        if eager then
          let first := if goesOn then again (some i) else .fail n
          first.orElse fun failed =>
            (goal.run i (if goesOn then (n.undo true failed).choose i else n)).orElse failHere
        else
          (goal.run i n).orElse fun failed =>
            let n := (n.undo nested failed).choose i
            if goesOn then
              (body ⟨none, rounds eager goal fuel (done + 1) (some i)⟩ i n).orElse failHere
            else .fail n

/-- Repeats a body as often as it goes, each round settled for good. -/
def settled : (fuel done : Nat) → (since : Option Nat) → (i : Nat) → Notes → Outcome
  | 0, _, _, _, n => .fail n
  | fuel + 1, done, since, i, n =>
      if done < least then
        (body .done i n).andThen fun j n => settled fuel (done + 1) since j n
      else if most.all (done < ·) && since != some i then
        let round := body .done i n
        if round.passed then settled fuel (done + 1) (some i) round.notes.choice round.notes
        else ⟨true, n.undo true round.notes⟩
      else ⟨true, n.choose i⟩

def Pattern.run : (nested : Bool) → Pattern → Goal → (i : Nat) → Notes → Outcome
  | _, .empty, goal, i, n => goal.run i n
  | _, .never, _, _, n => .fail n
  | _, .point p, goal, i, n =>
      if standsAt subject p.holds i then goal.run (i + 1) n else .fail n
  | _, .anchor a, goal, i, n => if a.holdsAt subject i then goal.run i n else .fail n
  | nested, .seq p q, goal, i, n =>
      run nested p ⟨q.openingBefore goal.opening, run nested q goal⟩ i n
  | nested, .alt p q, goal, i, n =>
      let begins := p.first?.all fun first => !first.isQuick || standsAt subject first.holds i
      let first := if begins then run nested p ⟨none, goal.run⟩ i (n.choose i) else .fail n
      first.orElse fun failed => run nested q goal i (n.undo nested failed)
  | nested, .group g p, goal, i, n =>
      run nested p ⟨none, fun j n => goal.run j (n.mark (2 * g - 1) j)⟩ i (n.mark (2 * g - 2) i)
  | nested, .scope p, goal, i, n => run nested p goal i n
  | _, .backref g rule, goal, i, n =>
      match n.span? g with
      | none => .fail n
      | some (first, last) =>
          if recurs subject rule first (last - first) i then goal.run (i + (last - first)) n
          else .fail n
  | nested, .rep e least most p, goal, i, n =>
      match p.single? with
      | some single => repeated subject nested e least most single goal i n
      | none =>
          let fuel := least + 2 * subject.size + 2
          let n := n.choose i
          match e with
          | .possessive =>
              let o := settled least most (run nested p) fuel 0 none i n
              if o.passed then goal.run o.notes.choice o.notes else .fail (o.notes.choose i)
          | _ => rounds nested least most (run true p) (e = .greedy) goal fuel 0 none i n
  | nested, .look side positive p, goal, i, n =>
      let back := match side with
        | .ahead => 0
        | .behind width => width
      if i < back then (if positive then .fail n else goal.run i n)
      else
        let o := run nested p .done (i - back) (n.choose (i - back))
        if positive then (if o.passed then goal.run i o.notes else o)
        else if o.passed then .fail o.notes
        else goal.run i (n.undo nested o.notes)
  | nested, .atomic p, goal, i, n =>
      let o := run nested p .done i (n.choose i)
      if o.passed then goal.run o.notes.choice o.notes else .fail (o.notes.choose i)
  | nested, .branch g p q, goal, i, n =>
      if (n.span? g).isSome then
        run nested p ⟨if q = .empty then goal.opening else none, goal.run⟩ i n
      else run nested q goal i n

end Search

/-- A match: the text it took, and for each group the text that the group took, if it took part. -/
structure Match where
  whole : Text
  groups : List (Option Text)
  deriving DecidableEq

namespace Match

def group? (m : Match) (n : Nat) : Option Text :=
  if n = 0 then some m.whole else (m.groups[n - 1]?).join

end Match

namespace Regex

def matchAt? (r : Regex) (subject : Array CodePoint) (i : Nat) : Option Match :=
  let o := r.pattern.run subject false .done i ⟨[], i⟩
  let taken (first last : Nat) : Text := (subject.extract first last).toList
  if o.passed then
    some ⟨taken i o.notes.choice, (List.range r.groups).map fun g =>
      (o.notes.span? (g + 1)).map fun (first, last) => taken first last⟩
  else none

/-- Whether a match may begin at a place. A set that every match begins in is looked at first, with
the flags of the whole pattern. -/
def mayBeginAt (r : Regex) (subject : Array CodePoint) (i : Nat) : Bool :=
  match r.pattern.opening? with
  | none => true
  | some set =>
      let varies := set.items.any fun
        | .one c => set.rule.hasOtherCase c
        | item => item.hasOtherCase set.rule || item.isWide
      set.rule != .exact && varies ||
        standsAt subject { set with rule := .exact, ascii := r.ascii }.holds i

def searchFrom? (r : Regex) (subject : Array CodePoint) (i : Nat) : (length : Nat) → Option Match
  | 0 => if r.mayBeginAt subject i then r.matchAt? subject i else none
  | length + 1 =>
      let here := if r.mayBeginAt subject i then r.matchAt? subject i else none
      here.orElse fun _ => r.searchFrom? subject (i + 1) length

def search? (r : Regex) (s : Text) : Option Match := r.searchFrom? s.toArray 0 s.length

end Regex

end Breadboard
