/-! Binary floating point seen exactly: what a float is worth as a mantissa times a power of two,
and the float nearest to a ratio of natural numbers. -/

namespace Breadboard

/-- The integer nearest to `num / den`; a half goes to the even neighbour. -/
def roundDiv (num den : Nat) : Nat :=
  let quotient := num / den
  let rest := num % den
  if 2 * rest < den then quotient
  else if den < 2 * rest then quotient + 1
  else if quotient % 2 = 0 then quotient else quotient + 1

structure Dyadic where
  negative : Bool
  mantissa : Nat
  exponent : Int
  deriving DecidableEq, Repr

inductive FloatKind where
  | nan
  | infinite (negative : Bool)
  | finite (value : Dyadic)
  deriving DecidableEq, Repr

namespace FloatKind

def ofBits (bits : Nat) : FloatKind :=
  let negative : Bool := bits / Nat.pow 2 63 % 2 == 1
  let exponent : Nat := bits / Nat.pow 2 52 % Nat.pow 2 11
  let fraction : Nat := bits % Nat.pow 2 52
  if exponent = 2047 then (if fraction = 0 then .infinite negative else .nan)
  else if exponent = 0 then .finite ⟨negative, fraction, -1074⟩
  else .finite ⟨negative, Nat.pow 2 52 + fraction, (exponent : Int) - 1075⟩

def of (x : Float) : FloatKind := ofBits x.toBits.toNat

end FloatKind

namespace Dyadic

def ratio (d : Dyadic) : Nat × Nat :=
  match d.exponent with
  | .ofNat e => (d.mantissa * Nat.pow 2 e, 1)
  | .negSucc e => (d.mantissa, Nat.pow 2 (e + 1))

def truncate (d : Dyadic) : Int :=
  let (num, den) := d.ratio
  if d.negative then -(num / den : Nat) else (num / den : Nat)

end Dyadic

def FloatKind.within (bound : Nat) : FloatKind → Bool
  | .finite d => d.ratio.1 ≤ bound * d.ratio.2
  | .nan => false
  | .infinite _ => false

/-- The bits of the float nearest to `num / den`; a half goes to the even mantissa, and what is
too large becomes infinite. -/
def nearestBits (num den : Nat) : Nat :=
  if num = 0 then 0
  else
    let guess : Int := (num.log2 : Int) - den.log2 - 52
    let scaled (e : Int) : Nat × Nat :=
      match e with
      | .ofNat e => (num, den * Nat.pow 2 e)
      | .negSucc e => (num * Nat.pow 2 (e + 1), den)
    let fits (e : Int) : Bool := let (n, d) := scaled e; n / d < Nat.pow 2 53
    let exponent := max (-1074) (if fits (guess - 1) then guess - 1 else guess)
    let (n, d) := scaled exponent
    let mantissa := roundDiv n d
    let (mantissa, exponent) :=
      if mantissa = Nat.pow 2 53 then (Nat.pow 2 52, exponent + 1) else (mantissa, exponent)
    if 971 < exponent then 2047 * Nat.pow 2 52
    else if mantissa < Nat.pow 2 52 then mantissa
    else (exponent + 1075).toNat * Nat.pow 2 52 + (mantissa - Nat.pow 2 52)

def nearestFloat (negative : Bool) (num den : Nat) : Float :=
  .ofBits (.ofNat (nearestBits num den + if negative then Nat.pow 2 63 else 0))

def floatOfInt? (i : Int) : Option Float :=
  if nearestBits i.natAbs 1 < 2047 * Nat.pow 2 52 then some (nearestFloat (i < 0) i.natAbs 1)
  else none

end Breadboard
