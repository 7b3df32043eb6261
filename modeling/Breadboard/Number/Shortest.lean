import Breadboard.Number.Binary
import Breadboard.Text.Basic

/-! The text of floats: the fewest digits that read back as the same float, and a fixed number of
places. -/

namespace Breadboard

def decimalWidth (num den : Nat) : Int :=
  let reaches (k : Int) : Bool :=
    match k with
    | .ofNat k => den * Nat.pow 10 k ≤ num
    | .negSucc k => den ≤ num * Nat.pow 10 (k + 1)
  let guess := ((num.log2 : Int) - den.log2) * 1233 / 4096
  if reaches (guess + 1) then guess + 2
  else if reaches guess then guess + 1
  else if reaches (guess - 1) then guess
  else guess - 1

/-- The reals that round to a float: between two ratios over one denominator, the ends included
or not. -/
structure RoundingInterval where
  low : Nat
  value : Nat
  high : Nat
  den : Nat
  closed : Bool

namespace RoundingInterval

def of (mantissa : Nat) (exponent : Int) : RoundingInterval :=
  let below := if mantissa = Nat.pow 2 52 ∧ -1074 < exponent then 1 else 2
  let scale := Nat.pow 2 (exponent - 2).toNat
  ⟨(4 * mantissa - below) * scale, 4 * mantissa * scale, (4 * mantissa + 2) * scale,
    Nat.pow 2 (2 - exponent).toNat, mantissa % 2 = 0⟩

def holds (i : RoundingInterval) (digits : Nat) (place : Int) : Bool :=
  let up := Nat.pow 10 place.toNat
  let down := Nat.pow 10 (-place).toNat
  let point := digits * up * i.den
  let low := i.low * down
  let high := i.high * down
  if i.closed then low ≤ point && point ≤ high else low < point && point < high

/-- The point of the grid of multiples of `10 ^ place` that rounds to the float, the nearer one if
two do. -/
def onGrid? (i : RoundingInterval) (place : Int) : Option Nat :=
  let num := i.value * Nat.pow 10 (-place).toNat
  let den := i.den * Nat.pow 10 place.toNat
  let floor := num / den
  match i.holds floor place, i.holds (floor + 1) place with
  | true, true => some (roundDiv num den)
  | true, false => some floor
  | false, true => some (floor + 1)
  | false, false => none

end RoundingInterval

/-- The fewest digits that read back as `mantissa * 2 ^ exponent`, and the place of the last. -/
def shortestDigits (mantissa : Nat) (exponent : Int) : Nat × Int :=
  let i := RoundingInterval.of mantissa exponent
  let width := decimalWidth i.value i.den
  let found := (List.range 17).findSome? fun (n : Nat) =>
    let place : Int := width - (n + 1)
    (i.onGrid? place).map (·, place)
  found.getD (i.value / i.den, 0)

/-- How a format writes its floats: the exponents of the first digit that are written out in
place, the words for what is no number, and what a single digit has before its exponent. -/
structure FloatStyle where
  leastPlain : Int
  mostPlain : Int
  nan : String
  infinity : String
  single : String := ""

namespace FloatStyle

def digits (style : FloatStyle) (n : Nat) (place : Int) : Text :=
  let ds : Text := Text.ofNat n
  let point : Int := ds.length + place
  let zeros (k : Int) : Text := List.replicate k.toNat (.char '0')
  if style.leastPlain ≤ point - 1 ∧ point - 1 ≤ style.mostPlain then
    if point ≤ 0 then text "0." ++ zeros (-point) ++ ds
    else if ds.length ≤ point then ds ++ zeros (point - ds.length) ++ text ".0"
    else ds.take point.toNat ++ text "." ++ ds.drop point.toNat
  else
    let power := point - 1
    let size := Text.ofNat power.natAbs
    ds.take 1 ++ (if ds.length = 1 then text style.single else text "." ++ ds.drop 1) ++
      text (if power < 0 then "e-" else "e+") ++ zeros (2 - size.length) ++ size

def dropZeros (n : Nat) (place : Int) : Nat × Int :=
  let ds := (Nat.toDigits 10 n).reverse
  let k := (ds.takeWhile (· = '0')).length
  if n = 0 then (0, 0) else (n / Nat.pow 10 k, place + k)

def write (style : FloatStyle) (x : Float) : Text :=
  match FloatKind.of x with
  | .nan => text style.nan
  | .infinite negative => text (if negative then "-" else "") ++ text style.infinity
  | .finite ⟨negative, mantissa, exponent⟩ =>
      text (if negative then "-" else "") ++
        if mantissa = 0 then text "0.0"
        else
          let (n, place) := shortestDigits mantissa exponent
          let (n, place) := dropZeros n place
          style.digits n place

end FloatStyle

def plainFloat : FloatStyle where
  leastPlain := -4
  mostPlain := 15
  nan := "nan"
  infinity := "inf"

/-- A float with a fixed number of places; a half goes to the even neighbour. -/
def fixedText (places : Nat) (x : Float) : Text :=
  match FloatKind.of x with
  | .nan => text "nan"
  | .infinite negative => text (if negative then "-inf" else "inf")
  | .finite d =>
      let (num, den) := d.ratio
      let scaled := roundDiv (num * Nat.pow 10 places) den
      let ds : Text := Text.ofNat scaled
      let ds : Text := List.replicate (places + 1 - ds.length) (.char '0') ++ ds
      let whole := ds.take (ds.length - places)
      text (if d.negative then "-" else "") ++ whole ++
        (if places = 0 then [] else text "." ++ ds.drop (ds.length - places))

end Breadboard
