import Breadboard.Text.Basic

/-! Dictionaries: values under texts, in the order in which the texts first appeared. -/

namespace Breadboard

abbrev Dict (α : Type) := List (Text × α)

namespace Dict

variable {α : Type}

def get? : Dict α → Text → Option α
  | [], _ => none
  | (k, v) :: d, key => if k = key then some v else get? d key

def has (d : Dict α) (key : Text) : Bool := (d.get? key).isSome

/-- Sets the value of a key, in its old place if it has one. -/
def put : Dict α → Text → α → Dict α
  | [], key, v => [(key, v)]
  | (k, old) :: d, key, v => if k = key then (k, v) :: d else (k, old) :: put d key v

def ofEntries (entries : List (Text × α)) : Dict α :=
  entries.foldl (fun d (key, v) => put d key v) []

theorem get?_put (d : Dict α) (key other : Text) (v : α) :
    (put d key v).get? other = if other = key then some v else d.get? other := by
  induction d with
  | nil =>
      by_cases h : other = key
      · subst h
        simp [put, get?]
      · simp [put, get?, h, Ne.symm h]
  | cons entry d ih =>
      obtain ⟨k, old⟩ := entry
      by_cases hk : k = key
      · subst hk
        by_cases h : other = k
        · subst h
          simp [put, get?]
        · simp [put, get?, h, Ne.symm h]
      · by_cases h : k = other
        · subst h
          simp [put, get?, hk]
        · simp [put, get?, hk, h, ih]

end Dict

end Breadboard
