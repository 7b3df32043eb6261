import Breadboard.Text.Basic
import Mathlib.Data.List.Induction
import Mathlib.Data.List.Nodup

/-! Lists in which the first of a key stands for all: a list joined by what is new
in another, and the texts of a list in the order in which they first appear. -/

namespace Breadboard

def newBy {α : Type} (key : α → Text) (known : List Text) (more : List α) : List α :=
  more.filter fun x => key x ∉ known

/-- A list, and after it what another has under new keys. -/
def joinBy {α : Type} (key : α → Text) (first more : List α) : List α :=
  first ++ newBy key (first.map key) more

section Join

variable {α : Type} {key : α → Text} {known : List Text} {first more : List α}

theorem mem_newBy {x : α} : x ∈ newBy key known more ↔ x ∈ more ∧ key x ∉ known := by
  rw [newBy, List.mem_filter, decide_eq_true_eq]

theorem map_newBy (key : α → Text) (known : List Text) (more : List α) :
    (newBy key known more).map key = newBy id known (more.map key) := by
  rw [newBy, newBy, List.filter_map]
  rfl

theorem newBy_eq_nil (all : ∀ x ∈ more, key x ∈ known) : newBy key known more = [] := by
  rw [newBy, List.filter_eq_nil_iff]
  intro x member
  rw [decide_eq_true_eq, not_not]
  exact all x member

theorem joinBy_nil (key : α → Text) (first : List α) : joinBy key first [] = first :=
  List.append_nil first

theorem nil_joinBy (key : α → Text) (more : List α) : joinBy key [] more = more := by
  simp [joinBy, newBy]

theorem joinBy_single (key : α → Text) (first : List α) (x : α) :
    joinBy key first [x] = if key x ∈ first.map key then first else first ++ [x] := by
  rw [joinBy, newBy, List.filter_singleton]
  by_cases known : key x ∈ first.map key <;> simp [known]

theorem joinBy_known (all : ∀ x ∈ more, key x ∈ first.map key) :
    joinBy key first more = first := by
  rw [joinBy, newBy_eq_nil all, List.append_nil]

theorem map_joinBy (key : α → Text) (first more : List α) :
    (joinBy key first more).map key = joinBy id (first.map key) (more.map key) := by
  rw [joinBy, joinBy, List.map_append, map_newBy, List.map_id]

theorem mem_joinBy_id {first more : List Text} {name : Text} :
    name ∈ joinBy id first more ↔ name ∈ first ∨ name ∈ more := by
  rw [joinBy, List.mem_append, mem_newBy, List.map_id]
  by_cases there : name ∈ first <;> simp [there]

theorem newBy_joinBy (key : α → Text) (a b c : List α) :
    newBy key ((joinBy key a b).map key) c =
      newBy key (a.map key) (newBy key (b.map key) c) := by
  rw [newBy, newBy, newBy, List.filter_filter]
  refine List.filter_congr fun x _ => ?_
  rw [map_joinBy, ← Bool.decide_and, decide_eq_decide, mem_joinBy_id, not_or]

theorem joinBy_assoc (key : α → Text) (a b c : List α) :
    joinBy key (joinBy key a b) c = joinBy key a (joinBy key b c) := by
  have parts : newBy key (a.map key) (joinBy key b c) =
      newBy key (a.map key) b ++ newBy key (a.map key) (newBy key (b.map key) c) :=
    List.filter_append b _
  rw [joinBy, newBy_joinBy, joinBy, List.append_assoc, ← parts, ← joinBy]

theorem nodup_joinBy (own : (first.map key).Nodup) (others : (more.map key).Nodup) :
    ((joinBy key first more).map key).Nodup := by
  rw [joinBy, List.map_append]
  refine List.Nodup.append own (others.sublist (List.filter_sublist.map key)) ?_
  intro name known new
  obtain ⟨x, member, rfl⟩ := List.mem_map.1 new
  exact (mem_newBy.1 member).2 known

end Join

/-! First appearances. -/

theorem eraseDups_concat (names : List Text) (name : Text) :
    (names ++ [name]).eraseDups =
      if name ∈ names then names.eraseDups
      else names.eraseDups ++ [name] := by
  rw [List.eraseDups_append]
  by_cases member : name ∈ names <;>
    simp [List.removeAll, List.eraseDups_cons, member]

theorem joinBy_eraseDups (names : List Text) (name : Text) :
    joinBy id names.eraseDups [name] = (names ++ [name]).eraseDups := by
  rw [joinBy_single, eraseDups_concat, List.map_id]
  simp only [id, List.mem_eraseDups]

theorem nodup_eraseDups (names : List Text) : names.eraseDups.Nodup := by
  induction names using List.reverseRecOn with
  | nil => exact List.nodup_nil
  | append_singleton names name ih =>
      rw [← List.map_id names.eraseDups] at ih
      rw [← joinBy_eraseDups, ← List.map_id (joinBy id names.eraseDups [name])]
      exact nodup_joinBy ih (List.nodup_singleton (id name))

end Breadboard
