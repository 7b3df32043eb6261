import Breadboard.Proofs.Config.Reading
import Breadboard.Proofs.Data.Dict

/-! Values in their common spelling: what keeps a value from it, and that it
holds nothing that was not there before. -/

namespace Breadboard

/-- What a value holds so many steps inside itself: one into a table, two into a
list. Pairs are never looked into. -/
inductive Value.Holds : Value → Nat → Value → Prop
  | self (v : Value) : Holds v 0 v
  | item {items : List Value} {v w : Value} {n : Nat} (member : v ∈ items)
      (inner : Holds v n w) : Holds (.list items) (n + 2) w
  | entry {entries : List (Text × Value)} {k : Text} {v w : Value} {n : Nat}
      (member : (k, v) ∈ entries) (inner : Holds v n w) :
      Holds (.table entries) (n + 1) w
  | keyed {entries : List (Value × Value)} {k v w : Value} {n : Nat}
      (member : (k, v) ∈ entries) (inner : Holds v n w) :
      Holds (.map entries) (n + 1) w
  | member {members : List Value} {v w : Value} {n : Nat} (member : v ∈ members)
      (inner : Holds v n w) : Holds (.set members) n w

theorem Value.Holds.trans {v w x : Value} {m n : Nat} (outer : v.Holds n w)
    (inner : w.Holds m x) : v.Holds (m + n) x := by
  induction outer with
  | self => exact inner
  | item member _ ih => exact .item member (ih inner)
  | entry member _ ih => exact .entry member (ih inner)
  | keyed member _ ih => exact .keyed member (ih inner)
  | member member _ ih => exact .member member (ih inner)

namespace Key

open Config

variable {ids : Bool} {steps : Nat} {fault : Fault}

/-! Lists and tables are spelled part by part. -/

def normalEntry (ids : Bool) (steps : Nat) (entry : Text × Value) :
    Except Fault (Text × Value) := do
  let key := if ids then entry.1 else snake entry.1
  return (key, ← normal (!ids && isIdTable key) steps entry.2)

def normalPair (ids : Bool) (steps : Nat) (entry : Value × Value) :
    Except Fault (Text × Value) := do
  normalEntry ids steps (← textOf entry.1, entry.2)

theorem normalItems_eq (steps : Nat) (items : List Value) :
    normalItems steps items = items.mapM (normal false steps) := by
  induction items with
  | nil => rfl
  | cons v rest ih =>
      rw [normalItems, ih, List.mapM_cons]

theorem normalEntries_eq (ids : Bool) (steps : Nat) (entries : List (Text × Value)) :
    normalEntries ids steps entries = entries.mapM (normalEntry ids steps) := by
  induction entries with
  | nil => rfl
  | cons entry rest ih =>
      rw [normalEntries, ih, List.mapM_cons, normalEntry, bind_assoc]
      rfl

theorem normalPairs_eq (ids : Bool) (steps : Nat) (entries : List (Value × Value)) :
    normalPairs ids steps entries = entries.mapM (normalPair ids steps) := by
  induction entries with
  | nil => rfl
  | cons entry rest ih =>
      rw [normalPairs, ih, List.mapM_cons, normalPair, bind_assoc]
      congr 1
      funext k
      rw [normalEntry, bind_assoc]
      rfl

/-! What keeps a value from its common spelling. -/

/-- What keeps a value from its common spelling: something that is too many steps
inside it, or inside itself, or under a key that cannot become a text. -/
inductive Bars (v : Value) (steps : Nat) : Fault → Prop
  | deep {w : Value} {n : Nat} (held : v.Holds n w) (far : steps ≤ n) :
      Bars v steps .tooDeep
  | again {shape : Shape} {n : Nat} (held : v.Holds n (.again shape))
      (around : shape ≠ .pair) : Bars v steps .tooDeep
  | key {entries : List (Value × Value)} {k w : Value} {n : Nat}
      (held : v.Holds n (.map entries)) (member : (k, w) ∈ entries)
      (unshown : k.canShow = false) : Bars v steps .unshown

theorem Bars.outside {v w : Value} {n fewer : Nat} (held : v.Holds n w)
    (bars : Bars w fewer fault) (fits : steps ≤ fewer + n) :
    Bars v steps fault := by
  cases bars with
  | deep inner far => exact .deep (held.trans inner) (by omega)
  | again inner around => exact .again (held.trans inner) around
  | key inner member unshown => exact .key (held.trans inner) member unshown

theorem normal_of_normalEntry_error {entry : Text × Value}
    (failed : normalEntry ids steps entry = .error fault) :
    ∃ ids, normal ids steps entry.2 = .error fault := by
  rcases bind_eq_error failed with wrong | ⟨_, _, nothing⟩
  · exact ⟨_, wrong⟩
  · cases nothing

theorem normal_of_normalEntry_ok {entry new : Text × Value}
    (read : normalEntry ids steps entry = .ok new) :
    ∃ ids, normal ids steps entry.2 = .ok new.2 := by
  obtain ⟨_, part, result⟩ := bind_eq_ok read
  cases result
  exact ⟨_, part⟩

theorem bars_of_normal {v : Value} (failed : normal ids steps v = .error fault) :
    Bars v steps fault := by
  induction steps using Nat.strongRecOn generalizing ids v with
  | ind steps ih =>
      cases steps with
      | zero =>
          rw [normal] at failed
          cases failed
          exact .deep (.self v) (Nat.le_refl _)
      | succ steps =>
          cases v with
          | table entries =>
              rw [normal, normalEntries_eq] at failed
              rcases bind_eq_error failed with failed | ⟨_, _, nothing⟩
              · obtain ⟨entry, member, wrong⟩ := exists_of_mapM_error failed
                obtain ⟨ids, wrong⟩ := normal_of_normalEntry_error wrong
                exact (ih steps (Nat.lt_succ_self _) wrong).outside
                  (.entry member (.self _)) (Nat.le_refl _)
              · cases nothing
          | map entries =>
              rw [normal, normalPairs_eq] at failed
              rcases bind_eq_error failed with failed | ⟨_, _, nothing⟩
              · obtain ⟨entry, member, wrong⟩ := exists_of_mapM_error failed
                rcases bind_eq_error wrong with unshown | ⟨key, _, wrong⟩
                · rw [textOf] at unshown
                  split at unshown
                  · cases unshown
                  · next shown =>
                      cases unshown
                      exact .key (.self _) member (Bool.eq_false_iff.2 shown)
                · obtain ⟨ids, wrong⟩ := normal_of_normalEntry_error wrong
                  exact (ih steps (Nat.lt_succ_self _) wrong).outside
                    (.keyed member (.self _)) (Nat.le_refl _)
              · cases nothing
          | list items =>
              rw [normal, normalItems_eq] at failed
              rcases bind_eq_error failed with failed | ⟨_, _, nothing⟩
              · obtain ⟨item, member, wrong⟩ := exists_of_mapM_error failed
                exact (ih (steps - 1) (by omega) wrong).outside
                  (.item member (.self _)) (by omega)
              · cases nothing
          | again shape =>
              cases shape with
              | pair => cases failed
              | list =>
                  cases failed
                  exact .again (.self _) nofun
              | table =>
                  cases failed
                  exact .again (.self _) nofun
          | _ => cases failed

/-! What is held by a value in its common spelling. -/

def Becomes (v w : Value) : Prop :=
  w = v ∨ ∃ ids steps, normal ids steps v = .ok w

/-- A value in its common spelling, as far as it shows: it is as it was, or its
parts are parts of what it was in their common spelling. -/
inductive Spelled (v : Value) : Value → Prop
  | same (unkeyed : ∀ entries, v ≠ .map entries) : Spelled v v
  | list {items : List Value} (parts : ∀ w ∈ items,
      ∃ x, v.Holds 2 x ∧ ∃ ids steps, normal ids steps x = .ok w) :
      Spelled v (.list items)
  | table {entries : Table} (parts : ∀ entry ∈ entries,
      ∃ x, v.Holds 1 x ∧ ∃ ids steps, normal ids steps x = .ok entry.2) :
      Spelled v (.table entries)

theorem spelled_of_normal {v w : Value} (spelled : normal ids steps v = .ok w) :
    Spelled v w := by
  cases steps with
  | zero =>
      rw [normal] at spelled
      cases spelled
  | succ steps =>
      cases v with
      | list items =>
          rw [normal, normalItems_eq] at spelled
          obtain ⟨new, read, result⟩ := bind_eq_ok spelled
          cases result
          refine .list fun w member => ?_
          obtain ⟨item, known, read⟩ := exists_of_mapM_ok read member
          exact ⟨item, .item known (.self _), false, steps - 1, read⟩
      | table entries =>
          rw [normal, normalEntries_eq] at spelled
          obtain ⟨new, read, result⟩ := bind_eq_ok spelled
          cases result
          refine .table fun entry member => ?_
          obtain ⟨old, known, entered⟩ :=
            exists_of_mapM_ok read (Dict.mem_of_mem_ofEntries member)
          obtain ⟨ids, part⟩ := normal_of_normalEntry_ok entered
          exact ⟨_, .entry known (.self _), ids, steps, part⟩
      | map entries =>
          rw [normal, normalPairs_eq] at spelled
          obtain ⟨new, read, result⟩ := bind_eq_ok spelled
          cases result
          refine .table fun entry member => ?_
          obtain ⟨old, known, entered⟩ :=
            exists_of_mapM_ok read (Dict.mem_of_mem_ofEntries member)
          obtain ⟨key, _, entered⟩ := bind_eq_ok entered
          obtain ⟨ids, part⟩ := normal_of_normalEntry_ok entered
          exact ⟨_, .keyed known (.self _), ids, steps, part⟩
      | again shape =>
          cases shape with
          | pair =>
              cases spelled
              exact .same nofun
          | list => cases spelled
          | table => cases spelled
      | _ =>
          cases spelled
          exact .same nofun

theorem exists_of_normal_holds {v v' w : Value} {n : Nat}
    (read : normal ids steps v = .ok v') (held : v'.Holds n w) :
    ∃ x, v.Holds n x ∧ Becomes x w := by
  induction held generalizing v ids steps with
  | self => exact ⟨v, .self v, .inr ⟨ids, steps, read⟩⟩
  | item member inner ih =>
      cases spelled_of_normal read with
      | same => exact ⟨_, .item member inner, .inl rfl⟩
      | list parts =>
          obtain ⟨x, outer, ids, steps, read⟩ := parts _ member
          obtain ⟨y, inner, becomes⟩ := ih read
          exact ⟨y, outer.trans inner, becomes⟩
  | entry member inner ih =>
      cases spelled_of_normal read with
      | same => exact ⟨_, .entry member inner, .inl rfl⟩
      | table parts =>
          obtain ⟨x, outer, ids, steps, read⟩ := parts _ member
          obtain ⟨y, inner, becomes⟩ := ih read
          exact ⟨y, outer.trans inner, becomes⟩
  | keyed =>
      cases spelled_of_normal read with
      | same unkeyed => exact absurd rfl (unkeyed _)
  | member member inner =>
      cases spelled_of_normal read with
      | same => exact ⟨_, .member member inner, .inl rfl⟩

end Key

end Breadboard
