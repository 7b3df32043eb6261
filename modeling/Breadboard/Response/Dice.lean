import Breadboard.Response.Basic
import Breadboard.Number.Binary

/-! The source of chance, and what is chosen by it. -/

namespace Breadboard

structure Dice where
  draws : Nat → Int
  drawn : Nat := 0

namespace Dice

/-- The draws of a list, over and over; of an empty list, zeros. -/
def ofList (draws : List Int) : Dice := ⟨fun n => draws.getD (n % draws.length) 0, 0⟩

def next (d : Dice) : Int × Dice := (d.draws d.drawn, { d with drawn := d.drawn + 1 })

def below (n : Nat) (d : Dice) : Nat × Dice := ((d.next.1 % n).toNat, d.next.2)

theorem below_lt {n : Nat} (h : 0 < n) (d : Dice) : (d.below n).1 < n := by
  have := Int.emod_lt_of_pos d.next.1 (show (0 : Int) < n by omega)
  have := Int.emod_nonneg d.next.1 (show (n : Int) ≠ 0 by omega)
  simp only [below]
  omega

/-- A time from zero up to `most`, in thousandths of it. -/
def upTo (most : Float) (d : Dice) : Float × Dice :=
  let (n, d) := d.below 1000
  (0.0 + (most - 0.0) * (nearestFloat false n 1 / 1000.0), d)

end Dice

namespace Response

def totalWeight (responses : List Response) : Nat :=
  responses.foldr (fun r total => r.effectiveWeight + total) 0

/-- The place of the response whose share of the total weight holds the draw. -/
def pick : List Response → (draw : Nat) → Nat
  | [], _ => 0
  | [_], _ => 0
  | r :: rest, draw =>
      if draw < r.effectiveWeight then 0 else pick rest (draw - r.effectiveWeight) + 1

/-- The place of the response to a mapping's request after `served` others. A single response is
chosen without a draw. -/
def choose (selection : Selection) (responses : List Response) (served : Nat) (d : Dice) :
    Nat × Dice :=
  if responses.length = 1 then (0, d)
  else match selection with
    | .sequential => (served % responses.length, d)
    | .random => d.below responses.length
    | .weighted =>
        let (draw, d) := d.below (totalWeight responses)
        (pick responses draw, d)

end Response

end Breadboard
