import Breadboard.Number.Binary

/-! The order in which the members of a set stand. They lie scattered over a table whose size is a
power of two, each at the place that its code tells, or at a later one if that is taken. -/

namespace Breadboard.Scatter

variable {α : Type}

/-- The places of a table; what lies at one is kept with its code. -/
abbrev Places (α : Type) := Array (Option (Nat × α))

/-- The code of a ratio whose denominator is a power of two. It is a remainder by the prime
`2 ^ 61 - 1`, by which `2 ^ 61` is one; a negative one counts down from `2 ^ 64`. -/
def code (num : Int) (den : Nat) : Nat :=
  let least := num.natAbs * Nat.pow 2 (61 - den.log2 % 61) % (Nat.pow 2 61 - 1)
  if least = 0 then 0
  else if 0 < num then least
  else Nat.pow 2 64 - max 2 least

/-- How many places behind the first are looked at before the next jump. -/
def reach (t : Places α) (i : Nat) : Nat := if i + 9 < t.size then 9 else 0

def isFree (t : Places α) (i : Nat) : Bool :=
  match t[i]? with
  | some none => true
  | _ => false

/-- The first free place from the `i`th on; what is left of the code makes the jumps differ. -/
def placeFrom (t : Places α) (left : Nat) : (jumps : Nat) → (i : Nat) → Nat
  | 0, i => i
  | jumps + 1, i =>
      match (List.range (reach t i + 1)).find? fun j => isFree t (i + j) with
      | some j => i + j
      | none => placeFrom t (left / 32) jumps ((i * 5 + 1 + left / 32) % t.size)

def lay (t : Places α) (entry : Nat × α) : Places α :=
  t.setIfInBounds (placeFrom t entry.1 (t.size + 16) (entry.1 % t.size)) (some entry)

def laid (t : Places α) : List (Nat × α) := t.toList.filterMap id

def sizeAbove (n : Nat) : Nat := max 8 (Nat.pow 2 (n.log2 + 1))

def regrow (size : Nat) (t : Places α) : Places α :=
  (laid t).foldl lay (Array.replicate size none)

def isFull (t : Places α) (count : Nat) : Bool := (t.size - 1) * 3 ≤ count * 5

def add (t : Places α) (entry : Nat × α) : Places α :=
  let t := lay t entry
  let count := (laid t).length
  if isFull t count then regrow (sizeAbove (if 50000 < count then count * 2 else count * 4)) t
  else t

def order (entries : List (Nat × α)) : List α :=
  let least : Places α := Array.replicate 8 none
  let start :=
    if isFull least entries.length then Array.replicate (sizeAbove (entries.length * 2)) none
    else least
  (laid (entries.foldl add start)).map (·.2)

end Breadboard.Scatter
