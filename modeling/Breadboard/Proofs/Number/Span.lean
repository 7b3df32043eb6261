import Breadboard.Number.Numeral
import Mathlib.Data.List.TakeWhile
import Mathlib.Tactic.ByContra

/-! Digits at the start of a text, and the characters that numerals are made of. -/

namespace Breadboard

def Digits (s : Text) : Prop := ∀ c ∈ s, 0x30 ≤ c.toNat ∧ c.toNat ≤ 0x39

instance (s : Text) : Decidable (Digits s) :=
  inferInstanceAs (Decidable (∀ c ∈ s, 0x30 ≤ c.toNat ∧ c.toNat ≤ 0x39))

def digitsOf (s : Text) : List Nat := s.map fun c => c.toNat - 0x30

variable {s rest : Text} {c : CodePoint}

theorem CodePoint.asciiDigit?_eq_none_iff :
    c.asciiDigit? = none ↔ ¬ (0x30 ≤ c.toNat ∧ c.toNat ≤ 0x39) := by
  rw [asciiDigit?]
  split <;> simp_all

theorem spanAscii_append (digits : Digits s)
    (stop : ∀ c ∈ rest.head?, c.asciiDigit? = none) :
    spanAscii (s ++ rest) = (digitsOf s, rest) := by
  induction s with
  | nil =>
      cases rest with
      | nil => rfl
      | cons c rest => rw [List.nil_append, spanAscii, stop c rfl, digitsOf, List.map_nil]
  | cons c s ih =>
      obtain ⟨first, others⟩ := List.forall_mem_cons.1 digits
      have own : c.asciiDigit? = some (c.toNat - 0x30) := if_pos first
      rw [List.cons_append, spanAscii, own, ih others]
      rfl

theorem of_spanAscii {ds : List Nat} (read : spanAscii s = (ds, rest)) :
    ∃ front, s = front ++ rest ∧ Digits front ∧ ds = digitsOf front := by
  induction s generalizing ds with
  | nil =>
      cases read
      exact ⟨[], rfl, nofun, rfl⟩
  | cons c s ih =>
      rw [spanAscii] at read
      split at read
      · next d own =>
          cases spanned : spanAscii s with
          | mk others after =>
          rw [spanned] at read
          cases read
          obtain ⟨front, rfl, digits, rfl⟩ := ih spanned
          have range : 0x30 ≤ c.toNat ∧ c.toNat ≤ 0x39 := by
            by_contra other
            rw [CodePoint.asciiDigit?_eq_none_iff.2 other] at own
            cases own
          have worth : c.asciiDigit? = some (c.toNat - 0x30) := if_pos range
          rw [own] at worth
          cases worth
          exact ⟨c :: front, rfl, List.forall_mem_cons.2 ⟨range, digits⟩, rfl⟩
      · cases read
        exact ⟨[], rfl, nofun, rfl⟩

/-! Digits of every script. -/

def digitValues (s : Text) : List Nat := s.filterMap CodePoint.digit?

theorem length_digitValues (digits : ∀ c ∈ s, c.isDigit = true) :
    (digitValues s).length = s.length :=
  List.filterMap_length_eq_length.2 digits

theorem spanDigits_append (digits : ∀ c ∈ s, c.isDigit = true)
    (stop : ∀ c ∈ rest.head?, c.isDigit = false) :
    spanDigits (s ++ rest) = (digitValues s, rest) := by
  induction s with
  | nil =>
      cases rest with
      | nil => rfl
      | cons c rest =>
          have other : c.digit? = none := by simpa [CodePoint.isDigit] using stop c rfl
          rw [List.nil_append, spanDigits, other]
          rfl
  | cons c s ih =>
      obtain ⟨first, others⟩ := List.forall_mem_cons.1 digits
      obtain ⟨d, own⟩ := Option.isSome_iff_exists.1 first
      rw [List.cons_append, spanDigits, own, ih others, digitValues, digitValues,
        List.filterMap_cons_some own]

/-! What stands in a numeral. -/

/-- A character that no numeral has in it. -/
structure Foreign (c : CodePoint) : Prop where
  margin : Numeral.isMargin c = false
  digit : c.isDigit = false
  marks : c ∉ text "_+-.eE"
  words : c.lower ∉ text "infinity" ++ text "nan"

instance (c : CodePoint) : Decidable (Foreign c) :=
  decidable_of_iff (Numeral.isMargin c = false ∧ c.isDigit = false ∧
      c ∉ text "_+-.eE" ∧ c.lower ∉ text "infinity" ++ text "nan")
    ⟨fun parts => ⟨parts.1, parts.2.1, parts.2.2.1, parts.2.2.2⟩,
      fun foreign => ⟨foreign.margin, foreign.digit, foreign.marks, foreign.words⟩⟩

namespace Foreign

theorem mem_dropWhile {p : CodePoint → Bool} (kept : p c = false) (member : c ∈ s) :
    c ∈ s.dropWhile p := by
  rw [← List.takeWhile_append_dropWhile (p := p) (l := s)] at member
  rcases List.mem_append.1 member with taken | left
  · rw [List.mem_takeWhile_imp taken] at kept
    cases kept
  · exact left

theorem mem_trim (foreign : Foreign c) (member : c ∈ s) : c ∈ Numeral.trim s := by
  rw [Numeral.trim, List.mem_reverse]
  apply mem_dropWhile foreign.margin
  rw [List.mem_reverse]
  exact mem_dropWhile foreign.margin member

theorem mem_joinGroups {afterDigit : Bool} {t : Text} (foreign : Foreign c)
    (joined : Numeral.joinGroups? afterDigit s = some t) (member : c ∈ s) : c ∈ t := by
  have marks := foreign.marks
  induction s generalizing afterDigit t with
  | nil => cases member
  | cons d s ih =>
      rw [Numeral.joinGroups?] at joined
      split at joined
      · next mark =>
          split at joined
          · rcases List.mem_cons.1 member with rfl | later
            · rw [mark] at marks
              exact absurd (by decide) marks
            · exact ih joined later
          · cases joined
      · obtain ⟨u, rest, rfl⟩ := Option.map_eq_some_iff.1 joined
        rcases List.mem_cons.1 member with rfl | later
        · exact List.mem_cons_self
        · exact List.mem_cons_of_mem _ (ih rest later)

theorem mem_takeSign (foreign : Foreign c) (member : c ∈ s) :
    c ∈ (Numeral.takeSign s).2 := by
  have marks := foreign.marks
  unfold Numeral.takeSign
  split
  · rcases List.mem_cons.1 member with rfl | later
    · exact absurd (by decide) marks
    · exact later
  · rcases List.mem_cons.1 member with rfl | later
    · exact absurd (by decide) marks
    · exact later
  · exact member

theorem mem_spanDigits (foreign : Foreign c) (member : c ∈ s) : c ∈ (spanDigits s).2 := by
  induction s with
  | nil => cases member
  | cons d s ih =>
      rw [spanDigits]
      split
      · next own =>
          rcases List.mem_cons.1 member with rfl | later
          · have digit := foreign.digit
            rw [CodePoint.isDigit, own] at digit
            cases digit
          · exact ih later
      · exact member

theorem exponent?_eq_none (foreign : Foreign c) (member : c ∈ s) :
    Numeral.exponent? s = none := by
  cases s with
  | nil => cases member
  | cons d s =>
      rw [Numeral.exponent?]
      split
      · next mark =>
          have later : c ∈ s := by
            rcases List.mem_cons.1 member with rfl | later
            · refine absurd ?_ foreign.marks
              rcases mark with rfl | rfl <;> decide
            · exact later
          have left := foreign.mem_spanDigits (foreign.mem_takeSign later)
          generalize Numeral.takeSign s = signed at left
          obtain ⟨negative, s⟩ := signed
          dsimp only at left ⊢
          generalize spanDigits s = spanned at left
          obtain ⟨ds, rest⟩ := spanned
          cases rest with
          | nil => cases left
          | cons d rest => cases ds <;> rfl
      · rfl

theorem unsigned?_eq_none (foreign : Foreign c) (member : c ∈ s) (negative : Bool) :
    Numeral.unsigned? negative s = none := by
  have left := foreign.mem_spanDigits member
  rw [Numeral.unsigned?]
  generalize spanDigits s = spanned at left
  obtain ⟨whole, rest⟩ := spanned
  dsimp only at left ⊢
  split
  · next r =>
      have later : c ∈ r := by
        rcases List.mem_cons.1 left with rfl | later
        · exact absurd (by decide) foreign.marks
        · exact later
      rw [foreign.exponent?_eq_none (foreign.mem_spanDigits later)]
      exact ite_self none
  · rw [foreign.exponent?_eq_none left]
    exact ite_self none

theorem word?_eq_none (foreign : Foreign c) (member : c ∈ s) (negative : Bool) :
    Numeral.word? negative s = none := by
  have differs : ∀ word, (∀ d ∈ word, d ∈ text "infinity" ++ text "nan") → word ≠ [] →
      (if s.all CodePoint.isAscii then s.map CodePoint.lower else []) ≠ word := by
    rintro word letters given rfl
    split at letters
    · exact foreign.words (letters _ (List.mem_map_of_mem member))
    · next other => exact given (if_neg other)
  rw [Numeral.word?, if_neg, if_neg]
  · exact differs _ (by decide) (by decide)
  · exact not_or.2 ⟨differs _ (by decide) (by decide), differs _ (by decide) (by decide)⟩

/-- No text with a foreign character in it is a numeral. -/
theorem readFloat?_eq_none (foreign : Foreign c) (member : c ∈ s) : readFloat? s = none := by
  have trimmed := foreign.mem_trim member
  rw [readFloat?]
  cases joined : Numeral.joinGroups? false (Numeral.trim s) with
  | none => rfl
  | some t =>
      have signed := foreign.mem_takeSign (foreign.mem_joinGroups joined trimmed)
      dsimp only
      rw [foreign.word?_eq_none signed, foreign.unsigned?_eq_none signed]
      rfl

end Foreign

end Breadboard
