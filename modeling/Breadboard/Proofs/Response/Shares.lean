import Breadboard.Response.Engine
import Mathlib.Algebra.BigOperators.Group.List.Basic
import Mathlib.Algebra.GroupWithZero.Nat
import Mathlib.Order.Interval.Finset.Nat

/-! What a draw chooses. Weighted responses divide the draws below their total
weight among them in their order: each has as many draws in a row as it weighs. -/

namespace Breadboard

namespace Dice

def showing (n : Nat) : Dice := ⟨fun _ => n, 0⟩

theorem below_showing {n total : Nat} (inside : n < total) :
    ((showing n).below total).1 = n := by
  have same : (n : Int) % total = n :=
    Int.emod_eq_of_lt (Int.natCast_nonneg n) (Int.ofNat_lt.2 inside)
  simp only [below, next, showing, same, Int.toNat_natCast]

end Dice

namespace Response

variable {responses : List Response} {draw place : Nat}

theorem totalWeight_pos (given : responses ≠ []) :
    1 ≤ totalWeight responses := by
  cases responses with
  | nil => exact absurd rfl given
  | cons r rest =>
      have own := r.effectiveWeight_pos
      rw [totalWeight, List.foldr_cons]
      omega

theorem pick_lt (given : responses ≠ []) (draw : Nat) :
    pick responses draw < responses.length := by
  fun_induction pick responses draw with
  | case1 => exact absurd rfl given
  | case2 => exact Nat.zero_lt_one
  | case3 => exact Nat.zero_lt_succ _
  | case4 r rest draw more _ ih => exact Nat.succ_lt_succ (ih more)

theorem choose_lt (given : responses ≠ []) (selection : Selection)
    (served : Nat) (d : Dice) :
    (choose selection responses served d).1 < responses.length := by
  have least : 0 < responses.length := List.length_pos_iff.2 given
  rw [choose.eq_def]
  split
  · exact least
  · cases selection with
    | sequential => exact Nat.mod_lt _ least
    | random => exact Dice.below_lt least d
    | weighted => exact pick_lt given _

/-! Weights. -/

theorem effectiveWeight_eq_max (r : Response) :
    (r.effectiveWeight : Int) = max 1 r.weight := by
  rw [effectiveWeight]
  split <;> omega

theorem totalWeight_eq_sum (responses : List Response) :
    totalWeight responses = (responses.map effectiveWeight).sum := by
  induction responses with
  | nil => rfl
  | cons r rest ih =>
      rw [List.map_cons, List.sum_cons, ← ih]
      rfl

@[simp] theorem totalWeight_cons (r : Response) (rest : List Response) :
    totalWeight (r :: rest) = r.effectiveWeight + totalWeight rest := rfl

/-- The weight of the responses before a place. -/
def weightBefore (responses : List Response) (place : Nat) : Nat :=
  totalWeight (responses.take place)

@[simp] theorem weightBefore_succ (r : Response) (rest : List Response) (place : Nat) :
    weightBefore (r :: rest) (place + 1) =
      r.effectiveWeight + weightBefore rest place := rfl

theorem weightBefore_getElem (inside : place < responses.length) :
    weightBefore responses (place + 1) =
      weightBefore responses place + responses[place].effectiveWeight := by
  simp only [weightBefore, totalWeight_eq_sum, List.map_take]
  rw [List.sum_take_succ _ _ (by simpa using inside), List.getElem_map]

theorem weightBefore_mono (responses : List Response) : Monotone (weightBefore responses) := by
  refine monotone_nat_of_le_succ fun place => ?_
  by_cases inside : place < responses.length
  · rw [weightBefore_getElem inside]
    exact Nat.le_add_right _ _
  · rw [weightBefore, weightBefore, List.take_of_length_le (by omega),
      List.take_of_length_le (by omega)]

theorem weightBefore_le (responses : List Response) (place : Nat) :
    weightBefore responses place ≤ totalWeight responses := by
  have most := weightBefore_mono responses (Nat.le_max_left place responses.length)
  rwa [weightBefore.eq_1 responses (max _ _), List.take_of_length_le (Nat.le_max_right _ _)]
    at most

/-! The share of a response. -/

/-- The draws that belong to a place: those from the weight before it up to the
weight with its own. -/
def share (responses : List Response) (place : Nat) : Finset Nat :=
  Finset.Ico (weightBefore responses place) (weightBefore responses (place + 1))

theorem mem_share :
    draw ∈ share responses place ↔ weightBefore responses place ≤ draw ∧
      draw < weightBefore responses (place + 1) :=
  Finset.mem_Ico

theorem card_share (inside : place < responses.length) :
    (share responses place).card = responses[place].effectiveWeight := by
  rw [share, Nat.card_Ico, weightBefore_getElem inside, Nat.add_sub_cancel_left]

theorem share_unique {other : Nat} (one : draw ∈ share responses place)
    (two : draw ∈ share responses other) : place = other := by
  rw [mem_share] at one two
  have mono := weightBefore_mono responses
  rcases Nat.lt_trichotomy place other with less | same | more
  · have : weightBefore _ (place + 1) ≤ _ := mono less
    omega
  · exact same
  · have : weightBefore _ (other + 1) ≤ _ := mono more
    omega

theorem mem_share_pick (inside : draw < totalWeight responses) :
    draw ∈ share responses (pick responses draw) := by
  rw [mem_share]
  fun_induction pick responses draw with
  | case1 draw => exact absurd inside (Nat.not_lt_zero draw)
  | case2 draw r => exact ⟨Nat.zero_le draw, inside⟩
  | case3 r rest draw _ less => exact ⟨Nat.zero_le draw, Nat.lt_add_right _ less⟩
  | case4 r rest draw _ notLess ih =>
      rw [totalWeight_cons] at inside
      have := ih (by omega)
      simp only [weightBefore_succ] at this ⊢
      omega

theorem pick_eq_iff (inside : draw < totalWeight responses) :
    pick responses draw = place ↔ draw ∈ share responses place := by
  constructor
  · rintro rfl
    exact mem_share_pick inside
  · exact share_unique (mem_share_pick inside)

theorem filter_pick_eq_share (responses : List Response) (place : Nat) :
    ((Finset.range (totalWeight responses)).filter fun draw =>
      pick responses draw = place) = share responses place := by
  ext draw
  rw [Finset.mem_filter, Finset.mem_range]
  constructor
  · rintro ⟨inside, picked⟩
    exact (pick_eq_iff inside).1 picked
  · intro member
    have inside := Nat.lt_of_lt_of_le (mem_share.1 member).2 (weightBefore_le responses _)
    exact ⟨inside, (pick_eq_iff inside).2 member⟩

/-! The same choice as a scan for the first place at which the weights that are
added up exceed the draw. -/

def exceeding? (responses : List Response) (draw : Nat) : Option Nat :=
  (List.range responses.length).find? fun place => draw < weightBefore responses (place + 1)

/-- The scan stops at some place before it runs out of responses. -/
theorem exceeding?_eq_pick (inside : draw < totalWeight responses) :
    exceeding? responses draw = some (pick responses draw) := by
  have given : responses ≠ [] := by
    rintro rfl
    exact absurd inside (Nat.not_lt_zero draw)
  obtain ⟨least, own⟩ := mem_share.1 (mem_share_pick inside)
  rw [exceeding?, List.find?_range_eq_some]
  refine ⟨decide_eq_true own, List.mem_range.2 (pick_lt given draw), fun place before => ?_⟩
  have below : weightBefore responses (place + 1) ≤ _ := weightBefore_mono responses before
  simp only [Bool.not_eq_true', decide_eq_false_iff_not]
  omega

end Response

namespace Engine

open Response

/-- Of responses that are chosen by weight, a draw below their total weight
chooses the one in whose share it is. Every such draw can come up; each
response has as many of them as it weighs, and what is not positive weighs one. -/
theorem select_weighted {e : Engine} {index : Nat} {r : Rule}
    (rule : e.rules[index]? = some r) (weighted : r.mapping.manner.selection = .weighted)
    (several : 2 ≤ r.mapping.responses.length) :
    let responses := r.mapping.responses
    let total := (responses.map effectiveWeight).sum
    (∀ dice : Dice, (dice.below total).1 < total ∧
      ∃ response, responses[pick responses (dice.below total).1]? = some response ∧
        (select index { e with dice }).1 = some response) ∧
    (∀ draw < total,
      (∃ dice : Dice, (dice.below total).1 = draw) ∧
      exceeding? responses draw = some (pick responses draw) ∧
      ∀ place, pick responses draw = place ↔
        weightBefore responses place ≤ draw ∧ draw < weightBefore responses (place + 1)) ∧
    ∀ place (inside : place < responses.length),
      (∃ draw < total, pick responses draw = place) ∧
      ((Finset.range total).filter fun draw => pick responses draw = place).card =
        responses[place].effectiveWeight ∧
      (responses[place].effectiveWeight : Int) = max 1 responses[place].weight := by
  intro responses total
  have whole : totalWeight responses = total := totalWeight_eq_sum responses
  have given : responses ≠ [] := List.ne_nil_of_length_pos (Nat.lt_of_succ_lt several)
  have least : 1 ≤ total := whole ▸ totalWeight_pos given
  refine ⟨fun dice => ⟨Dice.below_lt least dice, ?_⟩, fun draw below => ⟨?_, ?_, ?_⟩,
    fun place inside => ⟨?_, ?_, effectiveWeight_eq_max _⟩⟩
  · have inside := pick_lt given (dice.below total).1
    refine ⟨_, List.getElem?_eq_getElem inside, ?_⟩
    have notOne : ¬ r.mapping.responses.length = 1 := by omega
    have some : r.mapping.responses.isEmpty = false := by simpa using given
    rw [select, rule]
    simp only [some, choose, notOne, weighted, Bool.false_eq_true, if_false]
    rw [← List.getElem?_eq_getElem inside, ← whole]
  · exact ⟨.showing draw, Dice.below_showing below⟩
  · exact exceeding?_eq_pick (whole ▸ below)
  · exact fun place => (pick_eq_iff (whole ▸ below)).trans mem_share
  · have own := card_share inside
    have some : (share responses place).Nonempty := by
      rw [← Finset.card_pos, own]
      exact effectiveWeight_pos _
    rw [← filter_pick_eq_share, whole] at some
    obtain ⟨draw, member⟩ := some
    rw [Finset.mem_filter, Finset.mem_range] at member
    exact ⟨draw, member⟩
  · rw [← whole, filter_pick_eq_share, card_share inside]

def raffle : Rule where
  mapping := {
    request := text "draw"
    responses := [.ofText (text "a") 0, .ofText (text "b") (-3), .ofText (text "c") 2]
    manner := { selection := .weighted } }
  trigger := .literal (text "draw")

theorem raffle_weighted :
    [raffle][0]? = some raffle ∧ raffle.mapping.manner.selection = .weighted ∧
      2 ≤ raffle.mapping.responses.length ∧
      (∀ draw ∈ [(0, "a"), (1, "b"), (2, "c"), (3, "c")],
        (select 0 ⟨[raffle], { firmware := [] }, .showing draw.1⟩).1.map (·.chunks.map (·.data)) =
          some [text draw.2]) ∧
      ((Finset.range 4).filter fun draw =>
        pick raffle.mapping.responses draw = 2).card = 2 := by
  let engine : Engine := ⟨[raffle], { firmware := [] }, .showing 0⟩
  have rule : engine.rules[0]? = some raffle := rfl
  have shares := select_weighted rule rfl (by decide)
  exact ⟨rfl, rfl, by decide, by decide, (shares.2.2 2 (by decide)).2.1⟩

end Engine

end Breadboard
