import Breadboard.Data.Folder
import Breadboard.Proofs.Data.Dict
import Mathlib.Tactic.SplitIfs

/-! A file that has been written is there. Whatever leads to its place passes
through folders only, and those are left as they were. -/

namespace Breadboard

namespace Folder

/-- A place that is inside the folder in use or elsewhere below the root. -/
def Inner (p : Place) : Prop := ¬ (p.isAround ∨ p = Place.root)

theorem inner_of_at? {f : Folder} {p : Place} (free : f.at? p ≠ some .folder) :
    Inner p := by
  intro around
  rw [at?, if_pos around] at free
  exact free rfl

theorem at?_congr {f : Folder} {p q : Place} (inner : Inner p)
    (inner' : Inner q) (same : p.path = q.path) : f.at? p = f.at? q := by
  rw [at?, at?, if_neg inner, if_neg inner', same]

theorem at?_put_self {f : Folder} {p : Place} (inner : Inner p)
    (entry : FolderEntry) :
    at? (f.put p.path entry) p = some entry := by
  rw [at?, if_neg inner, Dict.get?_put, if_pos rfl]

/-- A folder is still there when a file is written where there is none. -/
theorem at?_put_of_folder {f : Folder} {p q : Place} (entry : FolderEntry)
    (free : f.at? p ≠ some .folder) (folder : f.at? q = some .folder) :
    at? (f.put p.path entry) q = some .folder := by
  by_cases inner : Inner q
  · have apart : q.path ≠ p.path := by
      intro same
      rw [at?_congr inner (inner_of_at? free) same] at folder
      exact free folder
    rw [at?, if_neg inner] at folder ⊢
    rw [Dict.get?_put, if_neg apart]
    split at folder
    · exact folder
    · split at folder
      · next around =>
          obtain ⟨⟨k, old⟩, member, inside⟩ := List.any_eq_true.1 around
          obtain ⟨new, kept⟩ := Dict.exists_mem_put p.path entry member
          exact if_pos (List.any_eq_true.2 ⟨(k, new), kept, inside⟩)
      · cases folder
  · rw [at?, if_pos (Classical.not_not.1 inner)]

theorem walk_put {f : Folder} {p q start : Place} {steps : List Text}
    (entry : FolderEntry) (free : f.at? p ≠ some .folder)
    (reached : f.walk start steps = .ok q) :
    walk (f.put p.path entry) start steps = .ok q := by
  induction steps generalizing start with
  | nil => exact reached
  | cons step steps ih =>
      rw [walk] at reached ⊢
      cases there : f.at? start with
      | none =>
          rw [there] at reached
          cases reached
      | some kind =>
          rw [there] at reached
          cases kind with
          | file content => cases reached
          | folder =>
              rw [at?_put_of_folder entry free there]
              dsimp only at reached ⊢
              split_ifs at reached ⊢ with stay up long
              · exact ih reached
              · exact ih reached
              · exact ih reached

theorem place?_put {f : Folder} {p q : Place} {path : Text}
    (entry : FolderEntry) (free : f.at? p ≠ some .folder)
    (reached : f.place? path = .ok q) :
    place? (f.put p.path entry) path = .ok q := by
  rw [place?] at reached ⊢
  cases encoded : Utf8.encode? path with
  | none =>
      rw [encoded] at reached
      cases reached
  | some bytes =>
      rw [encoded] at reached
      dsimp only at reached ⊢
      split_ifs at reached ⊢ with null nothing long
      exact walk_put entry free reached

theorem entry?_of_write {f f' : Folder} {path : Text} {content : Bytes}
    (written : f.write path content = .ok f') :
    entry? f' path = some (.file content) := by
  rw [write] at written
  cases reached : f.place? path with
  | error fault =>
      rw [reached] at written
      cases written
  | ok p =>
      rw [reached] at written
      dsimp only [bind, Except.bind] at written
      split at written
      · cases written
      · next free =>
          cases written
          rw [ entry?, place?_put (.file content) free reached]
          exact at?_put_self (inner_of_at? free) _

end Folder

end Breadboard
