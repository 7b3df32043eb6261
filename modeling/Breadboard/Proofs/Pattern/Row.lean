import Breadboard.Pattern.Search
import Breadboard.Text.Basic

/-! A pattern of a literal text, a group of a row of code points and one more
code point. Where a text has that form, the group takes the whole row. -/

namespace Breadboard

namespace Pattern

def point? (c : CodePoint) : Pattern := .point (.one false c .exact)

def after (lead : Text) (p : Pattern) : Pattern :=
  lead.foldr (fun c q => .seq (point? c) q) p

def row (p : Point) : Pattern := .group 1 (.rep .greedy 1 none (.point p))

def enclosed (lead : Text) (p : Point) (stop : CodePoint) : Pattern :=
  after lead (.seq (row p) (point? stop))

end Pattern

open Pattern

variable {front lead taken rest : Text} {c : CodePoint} {test : CodePoint → Bool}

theorem standsAt_length (front rest : Text) (c : CodePoint) (test : CodePoint → Bool) :
    standsAt (front ++ c :: rest).toArray test front.length = test c := by
  simp [standsAt]

theorem rowLength_append (front rest : Text) (all : ∀ d ∈ taken, test d = true)
    (stop : test c = false) {most : Nat} (room : taken.length ≤ most) :
    rowLength (front ++ (taken ++ c :: rest)).toArray test most front.length =
      taken.length := by
  induction taken generalizing front most with
  | nil =>
      cases most with
      | zero => rfl
      | succ most =>
          rw [rowLength, List.nil_append, standsAt_length, stop, if_neg Bool.false_ne_true]
          rfl
  | cons d taken ih =>
      cases most with
      | zero => exact absurd room (Nat.not_succ_le_zero _)
      | succ most =>
          have later := ih (front ++ [d])
            (fun e member => all e (List.mem_cons_of_mem d member))
            (Nat.le_of_succ_le_succ room)
          rw [List.append_assoc, List.length_append] at later
          rw [rowLength, List.cons_append, standsAt_length,
            if_pos (all d List.mem_cons_self)]
          exact congrArg (· + 1) later

theorem run_point? {subject : Array CodePoint} {i : Nat} (nested : Bool) (goal : Goal)
    (n : Notes) (stands : subject[i]? = some c) :
    (point? c).run subject nested goal i n = goal.run (i + 1) n := by
  rw [point?, Pattern.run, if_pos]
  simp [standsAt, stands, Point.holds, CaseRule.same, CaseRule.hasOtherCase]

theorem run_after (front lead rest : Text) (nested : Bool) (p : Pattern) (goal : Goal)
    (n : Notes) :
    (after lead p).run (front ++ (lead ++ rest)).toArray nested goal front.length n =
      p.run (front ++ (lead ++ rest)).toArray nested goal (front ++ lead).length n := by
  induction lead generalizing front with
  | nil => rw [List.append_nil]; rfl
  | cons c lead ih =>
      have stands : (front ++ (c :: lead ++ rest)).toArray[front.length]? = some c := by
        simp
      have later := ih (front ++ [c])
      simp only [List.append_assoc, List.singleton_append, List.length_append,
        List.length_singleton] at later
      rw [after, List.foldr_cons, Pattern.run, run_point? nested _ n stands]
      simp only [List.cons_append, List.length_append, List.length_cons]
      rw [← after, later]
      rfl

theorem shorten_of_passed {subject : Array CodePoint} {nested : Bool} {saved n : Notes}
    {start more : Nat} {goal : Goal} (any : goal.opening = none)
    (passed : (goal.run (start + more) (n.choose (start + more))).passed = true) :
    shorten subject nested saved start goal more n =
      goal.run (start + more) (n.choose (start + more)) := by
  cases more <;>
    simp only [shorten, any, Option.all_none, if_true, Outcome.orElse, passed]

/-- A row is repeated to its end, if the goal is reached from there. -/
theorem repeated_append {p : Point} {goal : Goal} {n : Notes} {nested : Bool}
    (given : taken ≠ []) (all : ∀ d ∈ taken, p.holds d = true)
    (stop : p.holds c = false) (any : goal.opening = none) {out : Outcome}
    (reached : ∀ choice, goal.run (front ++ taken).length
      { n with choice := choice } = out) (passed : out.passed = true) :
    repeated (front ++ (taken ++ c :: rest)).toArray nested .greedy 1 none p goal
      front.length n = out := by
  have some : 0 < taken.length := List.length_pos_iff.2 given
  have size : (front ++ (taken ++ c :: rest)).toArray.size - front.length =
      taken.length + (rest.length + 1) := by simp
  have length := rowLength_append front rest all stop
    (Nat.le_add_right taken.length (rest.length + 1))
  have whole : front.length + 1 + (taken.length - 1) = (front ++ taken).length := by
    rw [List.length_append]
    omega
  have ends (chosen : Nat) : goal.run (front.length + 1 + (taken.length - 1))
      ((n.choose chosen).choose (front.length + 1 + (taken.length - 1))) = out := by
    rw [whole]
    exact reached _
  simp only [repeated, size, Option.getD_none, Nat.min_self, length]
  rw [if_neg (by omega), if_neg (by omega)]
  have first := ends (if p.isSlow = true then front.length + taken.length else front.length)
  rw [shorten_of_passed any (by rw [first]; exact passed)]
  exact first

theorem searchFrom?_of_matchAt? {r : Regex} {subject : Array CodePoint} {i : Nat}
    {found : Match} (may : r.mayBeginAt subject i = true)
    (here : r.matchAt? subject i = some found) (length : Nat) :
    r.searchFrom? subject i length = some found := by
  cases length <;> simp only [Regex.searchFrom?, may, here, if_true, Option.orElse_some]

theorem opening?_enclosed (lead : Text) (p : Point) (c : CodePoint) :
    (enclosed lead p c).opening? = none := by
  cases lead <;> rfl

/-- The notes of the match: the group begins after the literal and ends with
the row. -/
theorem run_enclosed {p : Point} (given : taken ≠ [])
    (all : ∀ d ∈ taken, p.holds d = true) (stop : p.holds c = false) :
    (enclosed lead p c).run (lead ++ (taken ++ c :: rest)).toArray false .done 0 ⟨[], 0⟩ =
      ⟨true, ⟨[some lead.length, some (lead ++ taken).length],
        (lead ++ taken).length + 1⟩⟩ := by
  have start := run_after [] lead (taken ++ c :: rest) false
    (.seq (row p) (point? c)) .done ⟨[], 0⟩
  rw [List.nil_append, List.length_nil, List.nil_append] at start
  have ends : (lead ++ (taken ++ c :: rest)).toArray[(lead ++ taken).length]? = some c := by
    simp
  rw [enclosed, start, Pattern.run, row, Pattern.run, Pattern.run]
  simp only [Pattern.single?]
  apply repeated_append given all stop rfl
  · intro choice
    dsimp only
    rw [run_point? false _ _ ends]
    rfl
  · rfl

/-- The group takes the whole row. -/
theorem search?_enclosed (lead rest : Text) {p : Point} (given : taken ≠ [])
    (all : ∀ d ∈ taken, p.holds d = true) (stop : p.holds c = false) (ascii : Bool) :
    (Regex.mk (enclosed lead p c) 1 ascii).search? (lead ++ (taken ++ c :: rest)) =
      some ⟨lead ++ (taken ++ [c]), [some taken]⟩ := by
  have may : (Regex.mk (enclosed lead p c) 1 ascii).mayBeginAt
      (lead ++ (taken ++ c :: rest)).toArray 0 = true := by
    rw [Regex.mayBeginAt, opening?_enclosed]
  have whole : ((lead ++ (taken ++ c :: rest)).toArray.extract 0
      ((lead ++ taken).length + 1)).toList = lead ++ (taken ++ [c]) := by
    have parts : lead ++ (taken ++ c :: rest) = lead ++ (taken ++ [c]) ++ rest := by simp
    have length : (lead ++ taken).length + 1 = (lead ++ (taken ++ [c])).length := by
      simp [Nat.add_assoc]
    rw [parts, length]
    simp only [List.extract_toArray, List.extract_eq_take_drop, List.drop_zero,
      Nat.sub_zero, List.take_left]
  have group : ((lead ++ (taken ++ c :: rest)).toArray.extract lead.length
      (lead ++ taken).length).toList = taken := by
    simp
  apply searchFrom?_of_matchAt? may
  rw [Regex.matchAt?, run_enclosed given all stop]
  have inside : lead.length ≤ (lead ++ taken).length := by simp
  simp only [if_true, whole, List.range_one, List.map_cons, List.map_nil, Notes.span?,
    Nat.zero_add, Nat.mul_one, Nat.sub_self, Nat.add_one_sub_one, List.getElem?_cons_zero,
    List.getElem?_cons_succ, if_pos inside, Option.map_some, group]

end Breadboard
