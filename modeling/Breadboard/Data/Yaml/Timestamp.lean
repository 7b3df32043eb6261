import Breadboard.Data.Moment
import Breadboard.Text.Digit

/-! The spelling of moments in YAML: a day, or a day and a time with or without an offset. -/

namespace Breadboard.Yaml.Timestamp

def number? (least most : Nat) (s : Text) : Option (Nat × Text) :=
  let digits := (s.take most).map CodePoint.asciiDigit? |>.takeWhile Option.isSome
  if digits.length < least then none
  else some (digits.foldl (fun n d => 10 * n + d.getD 0) 0, s.drop digits.length)

def after? (mark : Char) (s : Text) : Option Text := Text.dropLead? [.char mark] s

def isBlank (c : CodePoint) : Bool := c = .char ' ' || c = .char '\t'

def day? (s : Text) : Option (Day × Text) := do
  let (year, s) ← number? 4 4 s
  let (month, s) ← number? 1 2 (← after? '-' s)
  let (day, s) ← number? 1 2 (← after? '-' s)
  return (⟨year, month, day⟩, s)

def gap? (s : Text) : Option Text :=
  match s with
  | .char 'T' :: s | .char 't' :: s => some s
  | c :: s => if isBlank c then some (s.dropWhile isBlank) else none
  | [] => none

/-- The microseconds behind a point, of which the first six digits count, and the rest. -/
def fraction (s : Text) : Nat × Text :=
  match s with
  | .char '.' :: r =>
      let digits := r.takeWhile (·.asciiDigit?.isSome)
      let first := digits.take 6 ++ List.replicate (6 - digits.length) (.char '0')
      (((number? 0 6 first).map (·.1)).getD 0, r.drop digits.length)
  | s => (0, s)

/-- The minutes of an offset up to the end: none at all, `Z`, or hours and perhaps minutes. -/
def offset? (s : Text) : Option (Option Int) :=
  if s.isEmpty then some none
  else
    let signed (sign : Int) (s : Text) : Option (Option Int) := do
      let (hours, s) ← number? 1 2 s
      let (minutes, s) ←
        match s with
        | .char ':' :: s => number? 2 2 s
        | s => some (0, s)
      if s.isEmpty then return some (sign * (hours * 60 + minutes)) else none
    match s.dropWhile isBlank with
    | [.char 'Z'] => some (some 0)
    | .char '+' :: s => signed 1 s
    | .char '-' :: s => signed (-1) s
    | _ => none

def time? (day : Day) (s : Text) : Option DayTime := do
  let (hour, s) ← number? 1 2 (← gap? s)
  let (minute, s) ← number? 2 2 (← after? ':' s)
  let (second, s) ← number? 2 2 (← after? ':' s)
  let (microsecond, s) := fraction s
  return { day, hour, minute, second, microsecond, offset := ← offset? s }

/-- The moment that a text spells, whether there is one such or not. -/
def read? (s : Text) : Option Moment := do
  let (day, s) ← day? s
  if s.isEmpty then return .day day else return .time (← time? day s)

/-- Whether a plain scalar is a moment by its form: months and days by themselves have two
digits. -/
def isPlain (s : Text) : Bool :=
  match read? s with
  | some (.day _) => s.length == 10
  | some (.time _) => true
  | none => false

end Breadboard.Yaml.Timestamp
