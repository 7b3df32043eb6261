import Breadboard.Number.Numeral
import Breadboard.Number.Shortest
import Breadboard.Proofs.Text.Trim
import Mathlib.Data.Nat.Digits.Defs

/-! Numbers are read back from the digits that they are printed as. With fixed
places, too, a number has no blank and no mark of any format in it. -/

namespace Breadboard

/-- The values of the digits of a number, the highest first. -/
def decimals (n : Nat) : List Nat := (Nat.toDigits 10 n).map (·.toNat - 0x30)

theorem toNat_of_isDigit {c : Char} (digit : c.isDigit = true) :
    0x30 ≤ c.toNat ∧ c.toNat ≤ 0x39 := by
  simp only [Char.isDigit, Bool.and_eq_true, decide_eq_true_eq] at digit
  exact digit

namespace Text

theorem digit_of_mem_ofNat {n : Nat} {c : CodePoint} (member : c ∈ ofNat n) :
    0x30 ≤ c.toNat ∧ c.toNat ≤ 0x39 := by
  obtain ⟨digit, known, rfl⟩ := List.mem_map.1 member
  exact toNat_of_isDigit
    (Nat.isDigit_of_mem_toDigits (by decide) (by decide) known)

theorem ofNat_ne_nil (n : Nat) : ofNat n ≠ [] := by
  simp [ofNat]

/-- No blank, mark or sign has the number of a digit. -/
theorem not_mem_ofNat (n : Nat) {c : CodePoint}
    (other : ¬ (0x30 ≤ c.toNat ∧ c.toNat ≤ 0x39)) : c ∉ ofNat n :=
  fun member => other (digit_of_mem_ofNat member)

theorem solid_ofNat (n : Nat) : Solid (ofNat n) := by
  apply solid_of_nonblank (ofNat_ne_nil n)
  intro c member
  obtain ⟨low, high⟩ := digit_of_mem_ofNat member
  exact CodePoint.isBlank_of_visible (by omega) (by omega)

end Text

theorem ofDigits_decimals (n : Nat) : ofDigits (decimals n) = n := by
  have back := Nat.ofDigitChars_toDigits (b := 10) (n := n) (by decide) (by decide)
  rw [Nat.ofDigitChars_eq_foldl] at back
  rw [ofDigits, decimals, List.foldl_map]
  exact back

theorem mapM_asciiDigit?_ofNat (n : Nat) :
    (Text.ofNat n).mapM CodePoint.asciiDigit? = some (decimals n) := by
  have each : ∀ cs : List Char, (∀ c ∈ cs, c.isDigit = true) →
      (cs.map CodePoint.char).mapM CodePoint.asciiDigit? =
        some (cs.map (·.toNat - 0x30)) := by
    intro cs digits
    induction cs with
    | nil => rfl
    | cons c cs ih =>
        have digit : (CodePoint.char c).asciiDigit? = some (c.toNat - 0x30) :=
          if_pos (toNat_of_isDigit (digits c List.mem_cons_self))
        have rest := ih fun d member => digits d (List.mem_cons_of_mem c member)
        rw [List.map_cons, List.mapM_cons, digit, rest]
        rfl
  exact each _ fun c member =>
    Nat.isDigit_of_mem_toDigits (by decide) (by decide) member

theorem takeSign_ofNat (n : Nat) :
    Numeral.takeSign (Text.ofNat n) = (false, Text.ofNat n) := by
  have plus := Text.not_mem_ofNat n (c := .char '+') (by decide)
  have minus := Text.not_mem_ofNat n (c := .char '-') (by decide)
  unfold Numeral.takeSign
  split
  · next shape => rw [shape] at minus; exact absurd List.mem_cons_self minus
  · next shape => rw [shape] at plus; exact absurd List.mem_cons_self plus
  · rfl

theorem ofDigits?_decimals {n : Nat} (few : n < 10 ^ mostDigits) :
    ofDigits? (decimals n) = .ok n := by
  have length : (decimals n).length ≤ mostDigits := by
    rw [decimals, List.length_map]
    exact (Nat.length_toDigits_le_iff (by decide) (by decide)).2 few
  rw [ofDigits?, if_neg (by omega), ofDigits_decimals]

theorem writeInteger?_eq (n : Int) :
    writeInteger? n = if 10 ^ mostDigits ≤ n.natAbs then none else some (.ofInt n) := by
  have few : (Nat.toDigits 10 n.natAbs).length ≤ mostDigits ↔ n.natAbs < 10 ^ mostDigits :=
    Nat.length_toDigits_le_iff (by decide) (by decide)
  have many : mostDigits < (Text.ofNat n.natAbs).length ↔ 10 ^ mostDigits ≤ n.natAbs := by
    rw [Text.ofNat, List.length_map, ← Nat.not_le, few, Nat.not_lt]
  rw [writeInteger?]
  simp only [many]

/-! Fixed places. -/

def figures : Text := text "-.0123456789naif"

theorem mem_figures_of_mem_ofNat {n : Nat} {c : CodePoint} (member : c ∈ Text.ofNat n) :
    c ∈ figures := by
  obtain ⟨low, high⟩ := Text.digit_of_mem_ofNat member
  obtain ⟨d, _, rfl⟩ := List.mem_map.1 member
  have digits : ∀ n < 0x3A, 0x30 ≤ n → CodePoint.char (.ofNat n) ∈ figures := by decide
  have own := digits d.toNat (Nat.lt_succ_of_le high) low
  rwa [d.ofNat_toNat] at own

theorem mem_figures_of_mem_fixedText {places : Nat} {x : Float} {c : CodePoint}
    (member : c ∈ fixedText places x) : c ∈ figures := by
  rw [fixedText] at member
  split at member
  · have each : ∀ c ∈ text "nan", c ∈ figures := by decide
    exact each c member
  · have each : ∀ negative : Bool, ∀ c ∈ text (if negative then "-inf" else "inf"),
        c ∈ figures := by decide
    exact each _ c member
  · next d _ =>
      have sign : ∀ negative : Bool, ∀ c ∈ text (if negative then "-" else ""),
          c ∈ figures := by decide
      have point : ∀ c ∈ text ".", c ∈ figures := by decide
      have digits : ∀ (width scaled : Nat),
          ∀ c ∈ List.replicate width (CodePoint.char '0') ++ Text.ofNat scaled,
            c ∈ figures := by
        intro width scaled c member
        rcases List.mem_append.1 member with zero | digit
        · rw [List.eq_of_mem_replicate zero]
          decide
        · exact mem_figures_of_mem_ofNat digit
      dsimp only at member
      rcases List.mem_append.1 member with early | fraction
      · rcases List.mem_append.1 early with negative | whole
        · exact sign _ c negative
        · exact digits _ _ c (List.mem_of_mem_take whole)
      · split at fraction
        · cases fraction
        · rcases List.mem_append.1 fraction with dot | rest
          · exact point c dot
          · exact digits _ _ c (List.mem_of_mem_drop rest)

end Breadboard
