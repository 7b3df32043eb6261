import Breadboard.Data.Dict
import Mathlib.Data.List.Forall2

/-! What is in a dictionary, and under which texts. -/

namespace Breadboard.Dict

variable {α : Type} {d entries : Dict α} {k key other : Text} {v w old : α}

theorem mem_of_get? (found : d.get? key = some v) : (key, v) ∈ d := by
  induction d with
  | nil => cases found
  | cons entry d ih =>
      obtain ⟨k, old⟩ := entry
      rw [get?] at found
      split at found
      · next same =>
          cases found
          exact same ▸ List.mem_cons_self ..
      · exact List.mem_cons_of_mem _ (ih found)

theorem has_of_mem (member : (key, v) ∈ d) : d.has key = true := by
  rw [has]
  induction d with
  | nil => cases member
  | cons entry d ih =>
      rw [get?]
      split
      · rfl
      · next different =>
          rcases List.mem_cons.1 member with here | later
          · exact absurd (congrArg Prod.fst here).symm different
          · exact ih later

theorem has_eq_false (absent : ∀ entry ∈ d, entry.1 ≠ key) :
    d.has key = false := by
  rw [has]
  cases found : d.get? key with
  | none => rfl
  | some v => exact absurd rfl (absent _ (mem_of_get? found))

theorem has_put (v : α) (there : d.has other = true) :
    (d.put key v).has other = true := by
  rw [has, get?_put]
  split
  · rfl
  · exact there

theorem exists_mem_put (key : Text) (v : α) (member : (k, old) ∈ d) :
    ∃ new, (k, new) ∈ d.put key v := by
  induction d with
  | nil => cases member
  | cons entry d ih =>
      obtain ⟨first, value⟩ := entry
      rw [put]
      split
      · next same =>
          rcases List.mem_cons.1 member with equality | later
          · cases equality
            exact ⟨v, List.mem_cons_self ..⟩
          · exact ⟨old, List.mem_cons_of_mem _ later⟩
      · rcases List.mem_cons.1 member with equality | later
        · exact ⟨old, equality ▸ List.mem_cons_self ..⟩
        · obtain ⟨new, kept⟩ := ih later
          exact ⟨new, List.mem_cons_of_mem _ kept⟩

theorem mem_of_mem_put (member : (k, v) ∈ d.put key w) :
    (k, v) = (key, w) ∨ (k, v) ∈ d := by
  induction d with
  | nil => exact .inl (List.mem_singleton.1 member)
  | cons entry d ih =>
      obtain ⟨first, old⟩ := entry
      rw [put] at member
      split at member
      · next same =>
          rcases List.mem_cons.1 member with here | later
          · exact .inl (same ▸ here)
          · exact .inr (List.mem_cons_of_mem _ later)
      · rcases List.mem_cons.1 member with here | later
        · exact .inr (here ▸ List.mem_cons_self ..)
        · exact (ih later).imp_right (List.mem_cons_of_mem _)

theorem mem_of_mem_putAll (member : (k, v) ∈
    entries.foldl (fun d entry => put d entry.1 entry.2) d) :
    (k, v) ∈ d ∨ (k, v) ∈ entries := by
  induction entries generalizing d with
  | nil => exact .inl member
  | cons entry rest ih =>
      rcases ih member with before | later
      · rcases mem_of_mem_put before with here | before
        · exact .inr (here ▸ List.mem_cons_self ..)
        · exact .inl before
      · exact .inr (List.mem_cons_of_mem _ later)

theorem mem_of_mem_ofEntries (member : (k, v) ∈ ofEntries entries) :
    (k, v) ∈ entries :=
  (mem_of_mem_putAll member).resolve_left List.not_mem_nil

/-! The texts of a dictionary. -/

def keys (d : Dict α) : List Text := d.map Prod.fst

theorem mem_keys : key ∈ d.keys ↔ ∃ v, (key, v) ∈ d := by
  simp [keys]

theorem has_iff_mem_keys : d.has key = true ↔ key ∈ d.keys := by
  rw [mem_keys]
  constructor
  · intro there
    obtain ⟨v, found⟩ := Option.isSome_iff_exists.1 there
    exact ⟨v, mem_of_get? found⟩
  · rintro ⟨v, member⟩
    exact has_of_mem member

theorem mem_keys_put : other ∈ (d.put key v).keys ↔ other = key ∨ other ∈ d.keys := by
  rw [← has_iff_mem_keys, ← has_iff_mem_keys, has, has, get?_put]
  split <;> simp_all

theorem nodup_put (apart : d.keys.Nodup) (key : Text) (v : α) : (d.put key v).keys.Nodup := by
  induction d with
  | nil => exact List.nodup_cons.2 ⟨List.not_mem_nil, List.nodup_nil⟩
  | cons entry d ih =>
      obtain ⟨k, old⟩ := entry
      obtain ⟨new, others⟩ := List.nodup_cons.1 apart
      rw [put]
      split
      · exact apart
      · next different =>
          refine List.nodup_cons.2 ⟨fun again => ?_, ih others⟩
          rcases mem_keys_put.1 again with same | there
          · exact different same
          · exact new there

theorem nodup_ofEntries (entries : List (Text × α)) : (ofEntries entries).keys.Nodup :=
  List.foldlRecOn (motive := fun d : Dict α => d.keys.Nodup) entries _ List.nodup_nil
    fun _ apart entry _ => nodup_put apart entry.1 entry.2

theorem eq_of_mem (apart : d.keys.Nodup) (one : (key, v) ∈ d) (two : (key, w) ∈ d) : v = w := by
  induction d with
  | nil => cases one
  | cons entry d ih =>
      obtain ⟨new, others⟩ := List.nodup_cons.1 apart
      have fresh : ∀ u, (key, u) = entry → key ∉ keys d := by
        rintro u rfl
        exact new
      rcases List.mem_cons.1 one with here | one'
      · rcases List.mem_cons.1 two with also | two'
        · exact congrArg Prod.snd (here.trans also.symm)
        · exact absurd (mem_keys.2 ⟨w, two'⟩) (fresh v here)
      · rcases List.mem_cons.1 two with also | two'
        · exact absurd (mem_keys.2 ⟨v, one'⟩) (fresh w also)
        · exact ih others one' two'

/-! Dictionaries that agree. -/

variable {β : Type} {R : Text → α → β → Prop} {e : Dict β} {x : β}

/-- Dictionaries with the same texts in the same order, over values that are
related one by one. -/
def Rel (R : Text → α → β → Prop) : Dict α → Dict β → Prop :=
  List.Forall₂ fun a b => a.1 = b.1 ∧ R a.1 a.2 b.2

theorem Rel.put (rel : Rel R d e) (related : R key v x) : Rel R (d.put key v) (e.put key x) := by
  induction rel with
  | nil => exact .cons ⟨rfl, related⟩ .nil
  | @cons a b d e same rest ih =>
      obtain ⟨k, old⟩ := a
      obtain ⟨_, new⟩ := b
      obtain ⟨rfl, own⟩ := same
      rw [Dict.put, Dict.put]
      split
      · next here =>
          subst here
          exact .cons ⟨rfl, related⟩ rest
      · exact .cons ⟨rfl, own⟩ ih

theorem rel_ofEntries (rel : Rel R d e) : Rel R (ofEntries d) (ofEntries e) := by
  have onto : ∀ {d' : Dict α} {e' : Dict β}, Rel R d' e' →
      Rel R (d.foldl (fun d entry => d.put entry.1 entry.2) d')
        (e.foldl (fun e entry => e.put entry.1 entry.2) e') := by
    induction rel with
    | nil => exact id
    | @cons a b d e same rest ih =>
        intro d' e' start
        obtain ⟨k, v⟩ := a
        obtain ⟨_, x⟩ := b
        obtain ⟨rfl, own⟩ := same
        exact ih (start.put own)
  exact onto .nil

theorem Rel.get? (rel : Rel R d e) (key : Text) :
    (d.get? key = none ∧ e.get? key = none) ∨
      ∃ v x, d.get? key = some v ∧ e.get? key = some x ∧ R key v x := by
  induction rel with
  | nil => exact .inl ⟨rfl, rfl⟩
  | @cons a b d e same rest ih =>
      obtain ⟨k, v⟩ := a
      obtain ⟨_, x⟩ := b
      obtain ⟨rfl, own⟩ := same
      rw [Dict.get?, Dict.get?]
      split
      · next here =>
          subst here
          exact .inr ⟨v, x, rfl, rfl, own⟩
      · exact ih

theorem Rel.keys (rel : Rel R d e) : d.keys = e.keys := by
  induction rel with
  | nil => rfl
  | cons same _ ih => exact congrArg₂ List.cons same.1 ih

end Breadboard.Dict
