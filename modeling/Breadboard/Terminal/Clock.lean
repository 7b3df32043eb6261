import Breadboard.Number.Binary

/-! Time in ticks. A tick is the least step between floats of seconds, so every float is a whole
number of ticks; a clock shows floats only, and its sums are rounded to them. -/

namespace Breadboard.Clock

def ticksPerSecond : Nat := Nat.pow 2 1074

/-- A span of seconds in ticks; one that is not positive is none at all, and an infinite one never
ends. -/
def ticks? (seconds : Float) : Option Nat :=
  match FloatKind.of seconds with
  | .finite d =>
      if d.negative then some 0 else let (num, den) := d.ratio; some (num * (ticksPerSecond / den))
  | .infinite negative => if negative then some 0 else none
  | .nan => some 0

/-- The nearest number of ticks with at most 53 binary digits that count; a half goes to the even
one. -/
def round (ticks : Nat) : Nat :=
  let step := Nat.pow 2 (ticks.log2 - 52)
  roundDiv ticks step * step

def after (time span : Nat) : Nat := round (time + span)

def resolution : Nat := 4835703278458517 * Nat.pow 2 992

def isDue (alarm now : Nat) : Bool := alarm < after now resolution

def ringTime (alarm now : Nat) : Nat := if isDue alarm now then now else alarm

def seconds (time : Nat) : Float := nearestFloat false time ticksPerSecond

def microseconds (time : Nat) : Nat := roundDiv (round (time * 1000000)) ticksPerSecond

/-- A time in whole microseconds, its whole seconds counted apart. -/
def stamp (time : Nat) : Nat :=
  time / ticksPerSecond * 1000000 + microseconds (time % ticksPerSecond)

def stampSeconds (time : Nat) : Float := nearestFloat false (stamp time) 1000000

end Breadboard.Clock
