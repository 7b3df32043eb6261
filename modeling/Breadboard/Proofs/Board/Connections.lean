import Breadboard.Proofs.Board.Invariant
import Mathlib.Data.Set.Insert

/-! The connections of a board as a set of unordered pairs. A board takes away only the first
connection that joins two nodes. That there never is a second one is what every change keeps, and
why the list and the set agree. -/

namespace Breadboard

inductive Rewiring where
  | connect (x y : Text)
  | disconnect (x y : Text)
  | clear

namespace Rewiring

def onBoard : Rewiring → Board → Board
  | connect x y, b => (b.connect x y).2
  | disconnect x y, b => (b.disconnect x y).2
  | clear, b => b.clearConnections

def onPairs : Rewiring → Set (Sym2 Text) → Set (Sym2 Text)
  | connect x y, pairs => insert s(x, y) pairs
  | disconnect x y, pairs => pairs \ {s(x, y)}
  | clear, _ => ∅

def pairs (initial : List Connection) (changes : List Rewiring) : Set (Sym2 Text) :=
  changes.foldl (fun pairs change => change.onPairs pairs)
    {p | p ∈ initial.map Connection.ends}

end Rewiring

/-- Of items that are told apart by what a test looks at, the test finds at most one. -/
theorem eraseP_eq_filter {f : α → β} {test : α → Bool} {b : β} {items : List α}
    (tells : ∀ a, test a = true ↔ f a = b) (apart : (items.map f).Nodup) :
    items.eraseP test = items.filter fun a => !test a := by
  induction items with
  | nil => rfl
  | cons a rest ih =>
      rw [List.map_cons, List.nodup_cons] at apart
      obtain ⟨new, others⟩ := apart
      by_cases found : test a = true
      · have single : ∀ a' ∈ rest, (!test a') = true := by
          intro a' member
          rw [Bool.not_eq_true', ← Bool.not_eq_true]
          intro again
          apply new
          rw [(tells a).1 found, ← (tells a').1 again]
          exact List.mem_map_of_mem member
        rw [List.eraseP_cons_of_pos found, List.filter_cons_of_neg (by simpa using found),
          List.filter_eq_self.2 single]
      · rw [List.eraseP_cons_of_neg found, List.filter_cons_of_pos (by simpa using found),
          ih others]

namespace Board

/-- The connections join the pairs of a set, each by one connection. -/
structure Joins (b : Board) (pairs : Set (Sym2 Text)) : Prop where
  mem : ∀ p, p ∈ b.connections.map Connection.ends ↔ p ∈ pairs
  apart : (b.connections.map Connection.ends).Nodup

variable {b : Board} {pairs : Set (Sym2 Text)} {x y : Text}

theorem Joins.isConnected (joins : b.Joins pairs) :
    b.isConnected x y = true ↔ s(x, y) ∈ pairs :=
  isConnected_iff.trans (joins.mem _)

/-! One change. -/

theorem connect_of_isConnected (there : b.isConnected x y = true) :
    b.connect x y = (false, b) := by
  rw [connect, if_pos there]

theorem connect_of_not_isConnected (absent : ¬ b.isConnected x y = true) :
    b.connect x y = (true, { b with connections := b.connections ++ [⟨x, y⟩] }) := by
  rw [connect, if_neg absent]

theorem isConnected_connect (b : Board) (x y x' y' : Text) :
    (b.connect x y).2.isConnected x' y' = true ↔
      b.isConnected x' y' = true ∨ s(x, y) = s(x', y') := by
  by_cases there : b.isConnected x y = true
  · rw [connect_of_isConnected there]
    refine ⟨.inl, fun either => either.elim id fun same => ?_⟩
    rw [isConnected_iff, ← same, ← isConnected_iff]
    exact there
  · rw [connect_of_not_isConnected there]
    simp only [isConnected_iff, List.map_append, List.mem_append, List.map_singleton,
      List.mem_singleton]
    exact or_congr_right eq_comm

theorem Joins.connections_disconnect (joins : b.Joins pairs) :
    (b.disconnect x y).2.connections = b.connections.filter fun c => !c.joins x y := by
  rw [disconnect]
  split
  · exact eraseP_eq_filter (fun _ => Connection.joins_iff) joins.apart
  · next absent =>
      refine (List.filter_eq_self.2 fun c member => ?_).symm
      rw [Bool.not_eq_true', ← Bool.not_eq_true]
      exact fun found => absent (List.any_eq_true.2 ⟨c, member, found⟩)

theorem Joins.connect (joins : b.Joins pairs) (x y : Text) :
    (b.connect x y).2.Joins (insert s(x, y) pairs) := by
  by_cases there : b.isConnected x y = true
  · rw [connect_of_isConnected there, Set.insert_eq_of_mem (joins.isConnected.1 there)]
    exact joins
  · rw [connect_of_not_isConnected there]
    constructor
    · intro p
      rw [List.map_append, List.mem_append, joins.mem, Set.mem_insert_iff, or_comm]
      exact or_congr_left List.mem_singleton
    · rw [List.map_append, List.map_singleton, ← List.concat_eq_append]
      exact joins.apart.concat (mt isConnected_iff.2 there)

theorem Joins.disconnect (joins : b.Joins pairs) (x y : Text) :
    (b.disconnect x y).2.Joins (pairs \ {s(x, y)}) where
  mem p := by
    rw [joins.connections_disconnect, Set.mem_sdiff, Set.mem_singleton_iff, ← joins.mem p]
    simp only [List.mem_map, List.mem_filter, Bool.not_eq_true', ← Bool.not_eq_true,
      Connection.joins_iff]
    constructor
    · rintro ⟨c, ⟨member, other⟩, rfl⟩
      exact ⟨⟨c, member, rfl⟩, other⟩
    · rintro ⟨⟨c, member, rfl⟩, other⟩
      exact ⟨c, ⟨member, other⟩, rfl⟩
  apart := by
    rw [joins.connections_disconnect]
    exact joins.apart.sublist (List.filter_sublist.map _)

theorem joins_clearConnections (b : Board) : b.clearConnections.Joins ∅ where
  mem p := by simp [clearConnections]
  apart := List.nodup_nil

theorem Joins.onBoard (joins : b.Joins pairs) (change : Rewiring) :
    (change.onBoard b).Joins (change.onPairs pairs) := by
  cases change with
  | connect x y => exact joins.connect x y
  | disconnect x y => exact joins.disconnect x y
  | clear => exact joins_clearConnections b

/-! All changes. -/

theorem Joins.withConnections (joins : b.Joins pairs) (connections : List Connection) :
    (b.withConnections connections).Joins
      (pairs ∪ {p | p ∈ connections.map Connection.ends}) := by
  induction connections generalizing b pairs with
  | nil => simpa [Board.withConnections] using joins
  | cons c rest ih =>
      have more : insert c.ends pairs ∪ {p | p ∈ rest.map Connection.ends} =
          pairs ∪ {p | p ∈ (c :: rest).map Connection.ends} := by
        ext p
        simp only [Set.mem_union, Set.mem_insert_iff, Set.mem_ofPred_eq, List.map_cons,
          List.mem_cons]
        tauto
      rw [← more]
      exact ih (joins.connect c.one c.other)

def rewire (changes : List Rewiring) (b : Board) : Board :=
  changes.foldl (fun b change => change.onBoard b) b

theorem Joins.rewire (joins : b.Joins pairs) (changes : List Rewiring) :
    (b.rewire changes).Joins
      (changes.foldl (fun pairs change => change.onPairs pairs) pairs) := by
  induction changes generalizing b pairs with
  | nil => exact joins
  | cons change rest ih => exact ih (joins.onBoard change)

theorem joins_rewired (b : Board) (initial : List Connection) (changes : List Rewiring) :
    (({ b with connections := [] }.withConnections initial).rewire changes).Joins
      (Rewiring.pairs initial changes) := by
  have made := (joins_clearConnections b).withConnections initial
  rw [Set.empty_union] at made
  exact made.rewire changes

/-- Whatever the connections of a board are at first and whatever is done to them, what it tells
of two nodes and of a change is what a set of unordered pairs tells; a change that does nothing
leaves the board as it is, and one that does something leaves the other connections as they are,
in their order. -/
theorem connections_as_set (b : Board) (initial : List Connection) (changes : List Rewiring)
    (x y : Text) :
    let b' := ({ b with connections := [] }.withConnections initial).rewire changes
    let pairs := Rewiring.pairs initial changes
    (b'.isConnected x y = true ↔ s(x, y) ∈ pairs) ∧
      ((b'.connect x y).1 = true ↔ s(x, y) ∉ pairs) ∧
      ((b'.disconnect x y).1 = true ↔ s(x, y) ∈ pairs) ∧
      ((b'.connect x y).1 = false → (b'.connect x y).2 = b') ∧
      ((b'.disconnect x y).1 = false → (b'.disconnect x y).2 = b') ∧
      ((b'.connect x y).1 = true →
        (b'.connect x y).2 = { b' with connections := b'.connections ++ [⟨x, y⟩] }) ∧
      (b'.disconnect x y).2 =
        { b' with connections := b'.connections.filter fun c => !c.joins x y } := by
  intro b' pairs
  have joins : b'.Joins pairs := joins_rewired b initial changes
  have removed := joins.connections_disconnect (x := x) (y := y)
  refine ⟨joins.isConnected, ?_⟩
  rw [← joins.isConnected]
  by_cases there : b'.isConnected x y = true
  · rw [connect_of_isConnected there]
    rw [disconnect, if_pos there] at removed ⊢
    simp [there, ← removed]
  · rw [connect_of_not_isConnected there]
    rw [disconnect, if_neg there] at removed ⊢
    simp [there, ← removed]

end Board

end Breadboard
