import Breadboard.Data.Value
import Breadboard.Number.Numeral

/-! Durations in seconds: a number, a numeral, or numerals with units, as in `1m30s`. -/

namespace Breadboard.Duration

inductive Fault where
  | invalid
  /-- An integer too large for a float. -/
  | tooLarge
  deriving DecidableEq, Repr

/-- The units and what they are worth. Of two that a text could begin with, the first here
counts. -/
def units : List (String × Float) := [
  ("ns", 1e-9), ("us", 1e-6), ("µs", 1e-6), ("ms", 1e-3), ("s", 1.0), ("m", 60.0), ("h", 3600.0)]

def number? (s : Text) : Option (Float × Text) :=
  let (whole, rest) := spanAscii s
  match rest with
  | .char '.' :: r =>
      match spanAscii r with
      | ([], _) => none
      | (places, r) =>
          some (Decimal.toFloat ⟨false, ofDigits (whole ++ places), -(places.length : Int)⟩, r)
  | r => if whole.isEmpty then none else some (Decimal.toFloat ⟨false, ofDigits whole, 0⟩, r)

def unit? (s : Text) : Option (Float × Text) :=
  units.findSome? fun (name, worth) => (Text.dropLead? (text name) s).map (worth, ·)

/-- The numerals with units that a text consists of, each as number and worth; each takes at least
one code point. -/
def parts? : (most : Nat) → Text → Option (List (Float × Float))
  | _, [] => some []
  | 0, _ => none
  | most + 1, s => do
      let (n, s) ← number? s
      let (worth, s) ← unit? s
      return (n, worth) :: (← parts? most s)

/-- Numerals with units, after any signs; the first sign counts. -/
def compound? (s : Text) : Option Float :=
  let sign := if s.head? = some (.char '-') then -1.0 else 1.0
  let s := s.dropWhile fun c => c = .char '+' || c = .char '-'
  match parts? s.length s with
  | none | some [] => none
  | some parts => some (sign * parts.foldl (fun total (n, worth) => total + n * worth) 0.0)

def ofText? (s : Text) : Option Float :=
  let s := s.trim
  if s.isEmpty then some 0.0
  else (readFloat? s).orElse fun _ => compound? s

/-- The duration a value stands for; no value is no time. -/
def read : Value → Except Fault Float
  | .null => .ok 0.0
  | .bool _ => .error .invalid
  | .int i =>
      match floatOfInt? i with
      | some x => .ok x
      | none => .error .tooLarge
  | .float x => .ok x
  | v =>
      match ofText? v.toText with
      | some x => .ok x
      | none => .error .invalid

end Breadboard.Duration
