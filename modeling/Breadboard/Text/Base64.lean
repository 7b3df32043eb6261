import Breadboard.Text.Utf8

/-! Bytes in base 64: four digits for three bytes. What is no digit is passed over. -/

namespace Breadboard.Base64

def digit? (c : CodePoint) : Option Nat :=
  let n := c.toNat
  if 0x41 ≤ n ∧ n ≤ 0x5A then some (n - 0x41)
  else if 0x61 ≤ n ∧ n ≤ 0x7A then some (n - 0x61 + 26)
  else if 0x30 ≤ n ∧ n ≤ 0x39 then some (n - 0x30 + 52)
  else if c = .char '+' then some 62
  else if c = .char '/' then some 63
  else none

/-- Reads on inside a group: `count` digits of it were read, `bits` are left of the last, and `pads`
signs stand in for further digits. A group filled up with such signs is the last. -/
def run (count bits pads : Nat) : Text → Option Bytes
  | [] => if count = 0 then some [] else none
  | c :: s =>
      if c = .char '=' ∧ 2 ≤ count then
        if 4 ≤ count + pads + 1 then some [] else run count bits (pads + 1) s
      else
        match digit? c, count with
        | none, _ => run count bits pads s
        | some d, 0 => run 1 d 0 s
        | some d, 1 => (run 2 (d % 16) 0 s).map (.ofNat (bits * 4 + d / 16) :: ·)
        | some d, 2 => (run 3 (d % 4) 0 s).map (.ofNat (bits * 16 + d / 4) :: ·)
        | some d, _ => (run 0 0 0 s).map (.ofNat (bits * 64 + d) :: ·)

def decode? (s : Text) : Option Bytes := run 0 0 0 s

end Breadboard.Base64
