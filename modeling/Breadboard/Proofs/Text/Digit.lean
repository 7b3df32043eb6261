import Breadboard.Text.Digit
import Breadboard.Text.Word

/-! Digits of every script: each is a character, and may stand in a word. -/

namespace Breadboard

namespace CodePoint

/-- A digit past ASCII stands in one of the rows of ten. -/
theorem row_of_isDigit {c : CodePoint} (digit : c.isDigit = true)
    (high : ¬ c.toNat < 0x80) : ∃ z ∈ digitZeros, z ≤ c.toNat ∧ c.toNat ≤ z + 9 := by
  rw [isDigit, digit?] at digit
  simp only [if_neg high, Option.isSome_map, List.find?_isSome, Bool.and_eq_true,
    decide_eq_true_eq] at digit
  exact digit

theorem isLone_of_isDigit {c : CodePoint} (digit : c.isDigit = true) :
    c.isLone = false := by
  cases c with
  | char c => rfl
  | lone offset =>
      have apart : ∀ z ∈ digitZeros, z + 9 < 0xD800 ∨ 0xE000 ≤ z := by decide
      have small := offset.isLt
      have number : (CodePoint.lone offset).toNat = 0xD800 + offset.val := rfl
      obtain ⟨z, known, low, high⟩ := row_of_isDigit digit (by omega)
      have := apart z known
      omega

theorem isWord_of_isDigit {c : CodePoint} (digit : c.isDigit = true) :
    c.isWord = true := by
  have letter : c.isAlphanumeric = true := by
    rw [isAlphanumeric]
    by_cases ascii : c.toNat < 0x80
    · rw [isDigit, digit?] at digit
      simp only [if_pos ascii] at digit ⊢
      split at digit
      · next range => simp [range]
      · cases digit
    · obtain ⟨z, known, low, high⟩ := row_of_isDigit digit ascii
      have rows : digitZeros.all (fun z => letterRanges.any fun range =>
          range.1.ble z && (z + 9).ble range.2) = true := by decide +kernel
      have row := List.all_eq_true.1 rows z known
      obtain ⟨range, within, ends⟩ := List.any_eq_true.1 row
      simp only [Bool.and_eq_true, Nat.ble_eq] at ends
      simp only [if_neg ascii]
      exact Ranges.contains_iff.2 ⟨range, within, by omega, by omega⟩
  rw [isWord, letter, Bool.or_true]

end CodePoint

/-- What is no digit is not among digits. -/
theorem not_mem_of_isDigit {digits : Text} (all : ∀ c ∈ digits, c.isDigit = true)
    {c : CodePoint} (other : c.isDigit = false) : c ∉ digits := by
  intro member
  rw [all c member] at other
  cases other

end Breadboard
