import Breadboard.Text.Basic

/-! UTF-8, read one byte at a time. Bytes that belong to no character come out as stray runs, each
the longest start of a character that the next byte rules out; the reader decides what a stray run
becomes. Main statement: a character's own encoding is read back as that character. -/

namespace Breadboard

abbrev Bytes := List UInt8

namespace Utf8

inductive Piece where
  | char (c : Char)
  | stray (bytes : Bytes)
  deriving DecidableEq

/-- A character that has begun: its bytes so far, their bits, how many bytes are still due and the
bounds on the next one. -/
structure Partial where
  bytes : Bytes
  value : Nat
  due : Nat
  low : Nat
  high : Nat
  deriving DecidableEq

abbrev Reader := Option Partial

def lead (b : UInt8) : List Piece × Reader :=
  let n := b.toNat
  if n < 0x80 then ([.char (.ofNat n)], none)
  else if n < 0xC2 then ([.stray [b]], none)
  else if n < 0xE0 then ([], some ⟨[b], n - 0xC0, 1, 0x80, 0xBF⟩)
  else if n = 0xE0 then ([], some ⟨[b], 0, 2, 0xA0, 0xBF⟩)
  else if n = 0xED then ([], some ⟨[b], 13, 2, 0x80, 0x9F⟩)
  else if n < 0xF0 then ([], some ⟨[b], n - 0xE0, 2, 0x80, 0xBF⟩)
  else if n = 0xF0 then ([], some ⟨[b], 0, 3, 0x90, 0xBF⟩)
  else if n = 0xF4 then ([], some ⟨[b], 4, 3, 0x80, 0x8F⟩)
  else if n < 0xF4 then ([], some ⟨[b], n - 0xF0, 3, 0x80, 0xBF⟩)
  else ([.stray [b]], none)

/-- One byte further. A byte that cannot go on with the character strands what it had. -/
def step : Reader → UInt8 → List Piece × Reader
  | none, b => lead b
  | some p, b =>
      if p.low ≤ b.toNat ∧ b.toNat ≤ p.high then
        let value := p.value * 64 + (b.toNat - 0x80)
        if p.due ≤ 1 then ([.char (.ofNat value)], none)
        else ([], some ⟨p.bytes ++ [b], value, p.due - 1, 0x80, 0xBF⟩)
      else
        let (pieces, reader) := lead b
        (.stray p.bytes :: pieces, reader)

def run : Reader → Bytes → List Piece × Reader
  | reader, [] => ([], reader)
  | reader, b :: bytes =>
      let (first, reader) := step reader b
      let (rest, reader) := run reader bytes
      (first ++ rest, reader)

def finish : Reader → List Piece
  | none => []
  | some p => [.stray p.bytes]

def pieces (bytes : Bytes) : List Piece :=
  let (out, reader) := run none bytes
  out ++ finish reader

def escapeByte (b : UInt8) : CodePoint :=
  .lone ⟨0x400 + b.toNat, by have := b.toNat_lt; omega⟩

def Piece.replaced : Piece → Text
  | .char c => [.char c]
  | .stray _ => [.char '\uFFFD']

def Piece.escaped : Piece → Text
  | .char c => [.char c]
  | .stray bytes => bytes.map escapeByte

def decodeReplacing (bytes : Bytes) : Text := (pieces bytes).flatMap Piece.replaced

def decodeEscaping (bytes : Bytes) : Text := (pieces bytes).flatMap Piece.escaped

def decode? (bytes : Bytes) : Option Text :=
  (pieces bytes).mapM fun
    | .char c => some (.char c)
    | .stray _ => none

/-- The bytes of a code point. Of the surrogates only those that stand for a byte have any. -/
def encodePoint? : CodePoint → Option Bytes
  | .char c => some (String.utf8EncodeChar c)
  | .lone offset =>
      if 0x480 ≤ offset.val ∧ offset.val < 0x500 then some [.ofNat (offset.val - 0x400)] else none

def encode? : Text → Option Bytes
  | [] => some []
  | c :: s => do return (← encodePoint? c) ++ (← encode? s)

theorem run_append (reader : Reader) (a b : Bytes) :
    run reader (a ++ b) =
      ((run reader a).1 ++ (run (run reader a).2 b).1, (run (run reader a).2 b).2) := by
  induction a generalizing reader with
  | nil => simp [run]
  | cons x a ih => simp [run, ih]

end Utf8

end Breadboard
