import Breadboard.Text.Basic

/-! Whether a text starts with another, ends with it or holds it. -/

namespace Breadboard

namespace Text

theorem startsWith_iff {s lead : Text} :
    s.startsWith lead = true ↔ ∃ rest, s = lead ++ rest := by
  simp only [startsWith, Option.isSome_iff_exists, dropLead?_eq_some_iff]

theorem endsWith_iff {s tail : Text} :
    s.endsWith tail = true ↔ ∃ rest, s = rest ++ tail := by
  rw [endsWith, startsWith_iff]
  constructor
  · rintro ⟨rest, equality⟩
    refine ⟨rest.reverse, ?_⟩
    rw [← List.reverse_inj, List.reverse_append, List.reverse_reverse, equality]
  · rintro ⟨rest, rfl⟩
    exact ⟨rest.reverse, List.reverse_append⟩

theorem contains_iff {s part : Text} :
    s.contains part = true ↔ part <:+: s := by
  rw [contains, Option.isSome_iff_exists]
  constructor
  · rintro ⟨⟨before, after⟩, found⟩
    exact ⟨before, after, (eq_append_of_cut? found).symm⟩
  · rintro ⟨before, after, rfl⟩
    induction before with
    | nil =>
        cases whole : part ++ after with
        | nil =>
            have found : dropLead? part [] = some after := by
              rw [← whole, dropLead?_append]
            exact ⟨([], after), by
              rw [List.nil_append, whole, cut?, found, Option.map_some]⟩
        | cons c s =>
            have found : dropLead? part (c :: s) = some after := by
              rw [← whole, dropLead?_append]
            exact ⟨([], after), by rw [List.nil_append, whole, cut?, found]⟩
    | cons c before ih =>
        obtain ⟨⟨front, rest⟩, found⟩ := ih
        simp only [List.cons_append, cut?]
        split
        · exact ⟨_, rfl⟩
        · rw [found]
          exact ⟨_, rfl⟩

end Text

end Breadboard
