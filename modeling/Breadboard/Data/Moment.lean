import Breadboard.Text.Basic

/-! Days of the calendar, and times on them, perhaps with the distance to universal time. -/

namespace Breadboard

structure Day where
  year : Nat
  month : Nat
  day : Nat
  deriving DecidableEq, Repr

namespace Day

def isLeap (year : Nat) : Bool := year % 4 == 0 && (year % 100 != 0 || year % 400 == 0)

def monthLength (year month : Nat) : Nat :=
  if month = 2 then (if isLeap year then 29 else 28)
  else if month ∈ [4, 6, 9, 11] then 30
  else 31

def isReal (d : Day) : Bool :=
  1 ≤ d.year && d.year ≤ 9999 && 1 ≤ d.month && d.month ≤ 12 && 1 ≤ d.day &&
    d.day ≤ monthLength d.year d.month

def number (d : Day) : Nat :=
  let years := d.year - 1
  let months := (List.range (d.month - 1)).foldl (fun n m => n + monthLength d.year (m + 1)) 0
  365 * years + years / 4 - years / 100 + years / 400 + months + (d.day - 1)

def padded (width n : Nat) : Text :=
  let digits := Text.ofNat n
  List.replicate (width - digits.length) (.char '0') ++ digits

def written (d : Day) : Text :=
  padded 4 d.year ++ text "-" ++ padded 2 d.month ++ text "-" ++ padded 2 d.day

def fields (d : Day) : List Nat := [d.year, d.month, d.day]

end Day

structure DayTime where
  day : Day
  hour : Nat
  minute : Nat
  second : Nat
  microsecond : Nat
  /-- How many minutes its clock is ahead of universal time, if that is known. -/
  offset : Option Int
  deriving DecidableEq, Repr

namespace DayTime

def isReal (t : DayTime) : Bool :=
  t.day.isReal && t.hour < 24 && t.minute < 60 && t.second < 60 &&
    t.offset.all fun m => m.natAbs < 1440

/-- The microseconds before this time, by its own clock or by universal time. -/
def number (t : DayTime) : Int :=
  let minutes : Int := (t.day.number * 24 + t.hour) * 60 + t.minute - t.offset.getD 0
  (minutes * 60 + t.second) * 1000000 + t.microsecond

/-- Whether two times are one; a time by an unknown clock is none by a known one. -/
def same (t u : DayTime) : Bool := t.offset.isSome == u.offset.isSome && t.number == u.number

def offsetWritten (m : Int) : Text :=
  text (if m < 0 then "-" else "+") ++ Day.padded 2 (m.natAbs / 60) ++ text ":" ++
    Day.padded 2 (m.natAbs % 60)

def written (t : DayTime) : Text :=
  t.day.written ++ text " " ++ Day.padded 2 t.hour ++ text ":" ++ Day.padded 2 t.minute ++
    text ":" ++ Day.padded 2 t.second ++
    (if t.microsecond = 0 then [] else text "." ++ Day.padded 6 t.microsecond) ++
    (t.offset.map offsetWritten).getD []

def offsetDisplay (m : Int) : Text :=
  if m = 0 then text "datetime.timezone.utc"
  else
    let days := if m < 0 then text "days=-1, " else []
    let seconds := if m < 0 then 86400 + m * 60 else m * 60
    text "datetime.timezone(datetime.timedelta(" ++ days ++ text "seconds=" ++
      Text.ofInt seconds ++ text "))"

/-- The fields of a time; seconds are left out where there are none. -/
def fields (t : DayTime) : List Nat :=
  t.day.fields ++ [t.hour, t.minute] ++
    (if t.microsecond ≠ 0 then [t.second, t.microsecond]
    else if t.second ≠ 0 then [t.second]
    else [])

end DayTime

inductive Moment where
  | day (d : Day)
  | time (t : DayTime)
  deriving DecidableEq, Repr

namespace Moment

def isReal : Moment → Bool
  | .day d => d.isReal
  | .time t => t.isReal

def kindName : Moment → Text
  | .day _ => text "date"
  | .time _ => text "datetime"

def written : Moment → Text
  | .day d => d.written
  | .time t => t.written

def same : Moment → Moment → Bool
  | .day d, .day e => d = e
  | .time t, .time u => t.same u
  | _, _ => false

def display (m : Moment) : Text :=
  let (fields, offset) : List Nat × Text :=
    match m with
    | .day d => (d.fields, [])
    | .time t =>
        (t.fields, (t.offset.map fun o => text ", tzinfo=" ++ DayTime.offsetDisplay o).getD [])
  text "datetime." ++ m.kindName ++ text "(" ++
    Text.joinWith (text ", ") (fields.map Text.ofNat) ++ offset ++ text ")"

end Moment

end Breadboard
