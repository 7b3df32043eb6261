import Breadboard.Proofs.Text.Part
import Mathlib.Data.List.Infix

/-! Texts cut at marks: the first mark is where no earlier one begins, and
lines come back from the text that they make up. -/

namespace Breadboard

namespace Text

/-! Cuts. -/

/-- No occurrence of `mark` begins before the one after `front`. -/
def Ahead (mark front : Text) : Prop :=
  ∀ rest, rest <:+ front → rest ≠ [] → ∀ back, ¬ mark <+: rest ++ (mark ++ back)

theorem cut?_of_ahead {mark front : Text} (ahead : Ahead mark front)
    (back : Text) : cut? mark (front ++ (mark ++ back)) = some (front, back) := by
  induction front with
  | nil =>
      rw [List.nil_append]
      cases whole : mark ++ back with
      | nil =>
          obtain ⟨rfl, rfl⟩ := List.append_eq_nil_iff.1 whole
          rfl
      | cons c s => rw [cut?, ← whole, dropLead?_append]
  | cons c front ih =>
      have missed : dropLead? mark (c :: (front ++ (mark ++ back))) = none := by
        rw [Option.eq_none_iff_forall_ne_some]
        intro rest found
        refine ahead (c :: front) List.suffix_rfl (List.cons_ne_nil c front) back ?_
        exact ⟨rest, (dropLead?_eq_some_iff.1 found).symm⟩
      have later : Ahead mark front := fun rest ending given back =>
        ahead rest (ending.trans (List.suffix_cons c front)) given back
      simp only [List.cons_append, cut?, missed, ih later, Option.map_some]

theorem ahead_single {c : CodePoint} {front : Text} (free : c ∉ front) :
    Ahead [c] front := by
  intro rest ending given back leads
  obtain ⟨d, rest, rfl⟩ := List.exists_cons_of_ne_nil given
  obtain ⟨_, same⟩ := leads
  cases same
  exact free (ending.subset List.mem_cons_self)

theorem cut?_single {c : CodePoint} {front : Text} (free : c ∉ front)
    (back : Text) : cut? [c] (front ++ c :: back) = some (front, back) :=
  cut?_of_ahead (ahead_single free) back

theorem cut?_eq_none {mark s : Text} (free : ¬ mark <:+: s) :
    cut? mark s = none := by
  rw [← contains_iff, contains, Bool.not_eq_true, Option.isSome_eq_false_iff] at free
  exact Option.isNone_iff_eq_none.1 free

theorem cut?_single_eq_none {c : CodePoint} {s : Text} (free : c ∉ s) :
    cut? [c] s = none :=
  cut?_eq_none fun found => free (found.subset List.mem_cons_self)

theorem not_mem_of_cut? {c : CodePoint} {s before after : Text}
    (found : cut? [c] s = some (before, after)) : c ∉ before := by
  induction s generalizing before with
  | nil => cases found
  | cons d s ih =>
      rw [cut?] at found
      split at found
      · cases found
        exact List.not_mem_nil
      · next missed =>
          obtain ⟨⟨front, rest⟩, later, equality⟩ := Option.map_eq_some_iff.1 found
          cases equality
          have other : c ≠ d := by
            rintro rfl
            rw [dropLead?, if_pos rfl, dropLead?] at missed
            cases missed
          exact List.not_mem_cons_of_ne_of_not_mem other (ih later)

/-! Lines. -/

theorem splitAt_of_free {mark : CodePoint} {s : Text} (free : mark ∉ s) :
    splitAt mark s = [s] := by
  induction s with
  | nil => rfl
  | cons c s ih =>
      have other : c ≠ mark := fun same => free (same ▸ List.mem_cons_self)
      have rest : mark ∉ s := fun member => free (List.mem_cons_of_mem c member)
      simp only [splitAt, if_neg other, ih rest]

theorem splitAt_ne_nil (mark : CodePoint) (s : Text) : splitAt mark s ≠ [] := by
  cases s with
  | nil => exact List.cons_ne_nil _ _
  | cons c s =>
      rw [splitAt]
      split
      · exact List.cons_ne_nil _ _
      · split <;> exact List.cons_ne_nil _ _

theorem not_mem_of_mem_splitAt {mark : CodePoint} {s line : Text}
    (member : line ∈ splitAt mark s) : mark ∉ line := by
  induction s generalizing line with
  | nil =>
      rw [List.mem_singleton.1 member]
      exact List.not_mem_nil
  | cons c s ih =>
      obtain ⟨first, lines, shape⟩ := List.exists_cons_of_ne_nil (splitAt_ne_nil mark s)
      rw [shape] at ih
      rw [splitAt, shape] at member
      split at member
      · rcases List.mem_cons.1 member with rfl | later
        · exact List.not_mem_nil
        · exact ih later
      · next other =>
          rcases List.mem_cons.1 member with rfl | later
          · exact List.not_mem_cons_of_ne_of_not_mem (Ne.symm other) (ih List.mem_cons_self)
          · exact ih (List.mem_cons_of_mem first later)

/-- The mark between two texts is where the lines of one end. -/
theorem splitAt_append_mark (mark : CodePoint) (s t : Text) :
    splitAt mark (s ++ mark :: t) = splitAt mark s ++ splitAt mark t := by
  induction s with
  | nil => simp only [List.nil_append, splitAt, if_true, List.singleton_append]
  | cons c s ih =>
      obtain ⟨line, lines, first⟩ := List.exists_cons_of_ne_nil (splitAt_ne_nil mark s)
      rw [List.cons_append, splitAt, ih, splitAt, first]
      split <;> rfl

theorem splitAt_append {mark : CodePoint} {line : Text} (free : mark ∉ line)
    (rest : Text) :
    splitAt mark (line ++ mark :: rest) = line :: splitAt mark rest := by
  rw [splitAt_append_mark, splitAt_of_free free, List.singleton_append]

/-- The lines of texts with the mark between them are their lines. -/
theorem splitAt_joinWith_flatMap (mark : CodePoint) {parts : List Text} (given : parts ≠ []) :
    splitAt mark (joinWith [mark] parts) = parts.flatMap (splitAt mark) := by
  induction parts with
  | nil => exact absurd rfl given
  | cons part rest ih =>
      cases rest with
      | nil => simp only [joinWith, List.flatMap_cons, List.flatMap_nil, List.append_nil]
      | cons next rest =>
          rw [List.flatMap_cons, joinWith, List.append_assoc, List.singleton_append,
            splitAt_append_mark, ih (List.cons_ne_nil next rest)]
          exact List.cons_ne_nil next rest

theorem splitAt_joinWith {mark : CodePoint} {parts : List Text}
    (given : parts ≠ []) (free : ∀ part ∈ parts, mark ∉ part) :
    splitAt mark (joinWith [mark] parts) = parts := by
  rw [splitAt_joinWith_flatMap mark given,
    List.flatMap_congr fun part member => splitAt_of_free (free part member)]
  exact List.flatMap_singleton' parts

/-- Lines that each end with the mark leave an empty part behind them. -/
theorem splitAt_ended {mark : CodePoint} {lines : List Text}
    (free : ∀ line ∈ lines, mark ∉ line) :
    splitAt mark (lines.flatMap (· ++ [mark])) = lines ++ [[]] := by
  induction lines with
  | nil => rfl
  | cons line rest ih =>
      have others := ih fun other member =>
        free other (List.mem_cons_of_mem line member)
      rw [List.flatMap_cons, List.append_assoc, List.singleton_append,
        splitAt_append (free line List.mem_cons_self), others, List.cons_append]

end Text

end Breadboard
