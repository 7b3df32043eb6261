import Breadboard.Data.Value
import Breadboard.Number.Numeral

/-! JSON read into values. Numbers with a point or an exponent are floats, others integers; the
words for what is no finite number are read too; of a repeated key the last value counts. -/

namespace Breadboard.Json

inductive Fault where
  | malformed
  | longInteger
  /-- A value inside too many others. -/
  | tooDeep
  deriving DecidableEq, Repr

def isSpace (c : CodePoint) : Bool :=
  c = .char ' ' || c = .char '\t' || c = .char '\n' || c = .char '\r'

def skipSpace (s : Text) : Text := s.dropWhile isSpace

def hex4? (a b c d : CodePoint) : Option Nat := do
  return 4096 * (← a.hexDigit?) + 256 * (← b.hexDigit?) + 16 * (← c.hexDigit?) + (← d.hexDigit?)

def letterEscape? : Char → Option Char
  | '\x22' => some '\x22'
  | '\\' => some '\\'
  | '/' => some '/'
  | 'b' => some '\x08'
  | 'f' => some '\x0c'
  | 'n' => some '\n'
  | 'r' => some '\r'
  | 't' => some '\t'
  | _ => none

def pair? (high low : Nat) : Option CodePoint :=
  if 0xD800 ≤ high ∧ high < 0xDC00 ∧ 0xDC00 ≤ low ∧ low < 0xE000 then
    CodePoint.ofNat? (0x10000 + (high - 0xD800) * 0x400 + (low - 0xDC00))
  else none

def lowEscape? : Text → Option Nat
  | .char '\\' :: .char 'u' :: a :: b :: c :: d :: _ => hex4? a b c d
  | _ => none

def stringBody? : (fuel : Nat) → Text → Option (Text × Text)
  | 0, _ => none
  | _, [] => none
  | fuel + 1, .char '\\' :: .char 'u' :: a :: b :: c :: d :: s => do
      let n ← hex4? a b c d
      match (lowEscape? s).bind (pair? n) with
      | some point =>
          let (body, rest) ← stringBody? fuel (s.drop 6)
          return (point :: body, rest)
      | none =>
          let point ← CodePoint.ofNat? n
          let (body, rest) ← stringBody? fuel s
          return (point :: body, rest)
  | fuel + 1, .char '\\' :: .char c :: s => do
      let d ← letterEscape? c
      let (body, rest) ← stringBody? fuel s
      return (.char d :: body, rest)
  | fuel + 1, c :: s =>
      if c = .char '\x22' then some ([], s)
      else if c = .char '\\' ∨ c.toNat < 0x20 then none
      else (stringBody? fuel s).map fun (body, rest) => (c :: body, rest)

/-- The places after a point, if a point and a digit follow. -/
def places : Text → List Nat × Text
  | .char '.' :: s =>
      match spanAscii s with
      | ([], _) => ([], .char '.' :: s)
      | found => found
  | s => ([], s)

def exponent? : Text → Option (Int × Text)
  | c :: s =>
      if c = .char 'e' ∨ c = .char 'E' then
        let (negative, s) := Numeral.takeSign s
        match spanAscii s with
        | ([], _) => none
        | (ds, rest) => some (if negative then -(ofDigits ds : Int) else ofDigits ds, rest)
      else none
  | [] => none

def number (s : Text) : Except Fault (Value × Text) :=
  let (negative, s) : Bool × Text :=
    match s with
    | .char '-' :: s => (true, s)
    | s => (false, s)
  match spanAscii s with
  | ([], _) => .error .malformed
  | (0 :: _ :: _, _) => .ok (.int 0, s.drop 1)
  | (whole, s) =>
      let (fraction, s) := places s
      match exponent? s with
      | some (e, rest) =>
          .ok (.float (Decimal.toFloat
            ⟨negative, ofDigits (whole ++ fraction), e - fraction.length⟩), rest)
      | none =>
          if fraction = [] then
            match ofDigits? whole with
            | .ok n => .ok (.int (if negative then -(n : Int) else n), s)
            | .error _ => .error .longInteger
          else
            .ok (.float (Decimal.toFloat
              ⟨negative, ofDigits (whole ++ fraction), -(fraction.length : Int)⟩), s)

def words : List (Text × Value) := [
  (text "null", .null), (text "true", .bool true), (text "false", .bool false),
  (text "NaN", .float (.ofBits 0x7FF8000000000000)),
  (text "Infinity", .float (nearestFloat false (Nat.pow 2 1100) 1)),
  (text "-Infinity", .float (nearestFloat true (Nat.pow 2 1100) 1))]

def word? (s : Text) : Option (Value × Text) :=
  words.findSome? fun (word, v) => (Text.dropLead? word s).map (v, ·)

def mostLevels : Nat := 990

mutual
/-- A value inside lists and tables that may have so many more levels. -/
def value (levels : Nat) : (fuel : Nat) → Text → Except Fault (Value × Text)
  | 0, _ => .error .malformed
  | fuel + 1, s =>
      match s with
      | .char '\x22' :: rest =>
          match stringBody? fuel rest with
          | some (body, rest) => .ok (.text body, rest)
          | none => .error .malformed
      | .char '[' :: rest =>
          if levels = 0 then .error .tooDeep
          else match skipSpace rest with
            | .char ']' :: rest => .ok (.list [], rest)
            | rest => (items (levels - 1) fuel rest).map fun (vs, rest) => (.list vs, rest)
      | .char '\x7b' :: rest =>
          if levels = 0 then .error .tooDeep
          else match skipSpace rest with
            | .char '\x7d' :: rest => .ok (.table [], rest)
            | rest =>
                (entries (levels - 1) fuel rest).map fun (es, rest) =>
                  (.table (Dict.ofEntries es), rest)
      | s =>
          match word? s with
          | some found => .ok found
          | none => number s

def items (levels : Nat) : (fuel : Nat) → Text → Except Fault (List Value × Text)
  | 0, _ => .error .malformed
  | fuel + 1, s => do
      let (v, rest) ← value levels fuel s
      match skipSpace rest with
      | .char ']' :: rest => return ([v], rest)
      | .char ',' :: rest =>
          let (vs, rest) ← items levels fuel (skipSpace rest)
          return (v :: vs, rest)
      | _ => .error .malformed

def entries (levels : Nat) : (fuel : Nat) → Text → Except Fault (List (Text × Value) × Text)
  | 0, _ => .error .malformed
  | fuel + 1, .char '\x22' :: s =>
      match stringBody? fuel s with
      | none => .error .malformed
      | some (key, rest) =>
          match skipSpace rest with
          | .char ':' :: rest => do
              let (v, rest) ← value levels fuel (skipSpace rest)
              match skipSpace rest with
              | .char '\x7d' :: rest => return ([(key, v)], rest)
              | .char ',' :: rest =>
                  let (es, rest) ← entries levels fuel (skipSpace rest)
                  return ((key, v) :: es, rest)
              | _ => .error .malformed
          | _ => .error .malformed
  | _ + 1, _ => .error .malformed
end

def read (s : Text) : Except Fault Value := do
  let (v, rest) ← value mostLevels (2 * s.length + 2) (skipSpace s)
  if (skipSpace rest).isEmpty then return v else .error .malformed

end Breadboard.Json
