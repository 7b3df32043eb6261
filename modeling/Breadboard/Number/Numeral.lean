import Breadboard.Number.Binary
import Breadboard.Text.Blank
import Breadboard.Text.Digit
import Breadboard.Text.Case

/-! Numerals read from text: digits of any script, underscores between digits, blanks around. -/

namespace Breadboard

def ofDigits (digits : List Nat) : Nat := digits.foldl (fun n d => 10 * n + d) 0

def spanDigits : Text → List Nat × Text
  | [] => ([], [])
  | c :: s =>
      match c.digit? with
      | some d => let (ds, rest) := spanDigits s; (d :: ds, rest)
      | none => ([], c :: s)

def spanAscii : Text → List Nat × Text
  | [] => ([], [])
  | c :: s =>
      match c.asciiDigit? with
      | some d => let (ds, rest) := spanAscii s; (d :: ds, rest)
      | none => ([], c :: s)

theorem spanDigits_length (s : Text) : (spanDigits s).2.length ≤ s.length := by
  induction s with
  | nil => simp [spanDigits]
  | cons c s ih =>
      simp only [spanDigits]
      split
      · simp only [List.length_cons]; omega
      · simp

structure Decimal where
  negative : Bool
  digits : Nat
  exponent : Int
  deriving DecidableEq, Repr

def Decimal.toFloat (d : Decimal) : Float :=
  let width : Int := (Nat.toDigits 10 d.digits).length
  if d.digits = 0 ∨ d.exponent + width < -330 then nearestFloat d.negative 0 1
  else if 310 < d.exponent + width then nearestFloat d.negative (Nat.pow 2 1100) 1
  else
    nearestFloat d.negative (d.digits * Nat.pow 10 d.exponent.toNat)
      (Nat.pow 10 (-d.exponent).toNat)

namespace Numeral

/-- Trims a numeral: blanks, but not the information separators, may surround it. -/
def isMargin (c : CodePoint) : Bool := c.isBlank && !(0x1C ≤ c.toNat && c.toNat ≤ 0x1F)

def trim (s : Text) : Text :=
  ((s.dropWhile isMargin).reverse.dropWhile isMargin).reverse

def joinGroups? : (afterDigit : Bool) → Text → Option Text
  | _, [] => some []
  | afterDigit, c :: s =>
      if c = .char '_' then
        if afterDigit && s.head?.any CodePoint.isDigit then joinGroups? false s else none
      else (joinGroups? c.isDigit s).map (c :: ·)

def takeSign : Text → Bool × Text
  | .char '-' :: s => (true, s)
  | .char '+' :: s => (false, s)
  | s => (false, s)

def exponent? : Text → Option Int
  | [] => some 0
  | c :: s =>
      if c = .char 'e' ∨ c = .char 'E' then
        let (negative, s) := takeSign s
        match spanDigits s with
        | ([], _) => none
        | (ds, []) => some (if negative then -(ofDigits ds : Int) else ofDigits ds)
        | (_, _ :: _) => none
      else none

/-- A numeral without sign: digits with or without a point, at least one, and an exponent. -/
def unsigned? (negative : Bool) (s : Text) : Option Decimal :=
  let (whole, rest) := spanDigits s
  let (places, rest) :=
    match rest with
    | .char '.' :: r => spanDigits r
    | r => ([], r)
  if whole = [] ∧ places = [] then none
  else (exponent? rest).map fun e => ⟨negative, ofDigits (whole ++ places), e - places.length⟩

def word? (negative : Bool) (s : Text) : Option Float :=
  let s := if s.all CodePoint.isAscii then s.map CodePoint.lower else []
  if s = text "inf" ∨ s = text "infinity" then some (nearestFloat negative (Nat.pow 2 1100) 1)
  else if s = text "nan" then
    some (.ofBits (if negative then 0xFFF8000000000000 else 0x7FF8000000000000))
  else none

end Numeral

def readFloat? (s : Text) : Option Float :=
  let s := Numeral.trim s
  match Numeral.joinGroups? false s with
  | none => none
  | some s =>
      let (negative, s) := Numeral.takeSign s
      match Numeral.word? negative s with
      | some x => some x
      | none => (Numeral.unsigned? negative s).map Decimal.toFloat

inductive IntegerFault where
  | notInteger
  | tooLong
  deriving DecidableEq, Repr

/-- Integers of more digits than this are neither read nor written. -/
def mostDigits : Nat := 4300

def ofDigits? (digits : List Nat) : Except IntegerFault Nat :=
  if mostDigits < digits.length then .error .tooLong else .ok (ofDigits digits)

def writeInteger? (n : Int) : Option Text :=
  if mostDigits < (Text.ofNat n.natAbs).length then none else some (.ofInt n)

def readIntegerIn? (base : Nat) (sign : Char) (s : Text) : Option Int :=
  let (negative, s) := Numeral.takeSign (Numeral.trim s)
  let digits :=
    match s with
    | .char '0' :: c :: r => if c.lower = CodePoint.char sign then r else s
    | s => s
  let value? (c : CodePoint) : Option Nat :=
    (c.hexDigit?.orElse fun _ => c.digit?).filter (· < base)
  match digits.mapM value? with
  | none | some [] => none
  | some ds =>
      let n := ds.foldl (fun n d => base * n + d) 0
      some (if negative then -(n : Int) else n)

def readInteger (s : Text) : Except IntegerFault Int :=
  let s := Numeral.trim s
  match Numeral.joinGroups? false s with
  | none => .error .notInteger
  | some s =>
      let (negative, s) := Numeral.takeSign s
      match spanDigits s with
      | ([], _) => .error .notInteger
      | (_, _ :: _) => .error .notInteger
      | (ds, []) => (ofDigits? ds).map fun n => if negative then -(n : Int) else n

end Breadboard
