import Breadboard.Proofs.Serial.Search
import Breadboard.Proofs.Serial.Use

/-! Serial lines that are taken and given back one at a time. A line is closed at most
once, and nothing is done with it afterwards; one is held as long as the last opening
that gave a line has not been followed by a closing. -/

namespace Breadboard

namespace SerialCall

def Still (call : SerialCall) : Prop := call.opened? = none ∧ call.closed? = none

variable {call : SerialCall} {line : SerialLine}

theorem Uses.still (uses : call.Uses line) : call.Still := by
  cases call with
  | opening => exact uses.elim
  | close => exact uses.elim
  | _ => exact ⟨rfl, rfl⟩

theorem on?_of_closed? (closes : call.closed? = some line) : call.on? = some line := by
  cases call with
  | close => exact closes
  | _ => cases closes

end SerialCall

/-- The last opening that gave a line has not been followed by a closing. -/
def LeftOpen (calls : List SerialCall) : Prop :=
  ∃ before port baudRate line after,
    calls = before ++ .opening port baudRate (some line) :: after ∧
      ∀ call ∈ after, call.Still

theorem leftOpen_cons {call : SerialCall} {calls : List SerialCall} :
    LeftOpen (call :: calls) ↔
      LeftOpen calls ∨ call.opened? ≠ none ∧ ∀ call ∈ calls, call.Still := by
  constructor
  · rintro ⟨_ | ⟨_, before⟩, port, baudRate, line, after, split, still⟩
    · cases split
      exact .inr ⟨Option.some_ne_none line, still⟩
    · cases split
      exact .inl ⟨before, port, baudRate, line, after, rfl, still⟩
  · rintro (⟨before, port, baudRate, line, after, rfl, still⟩ | ⟨gives, still⟩)
    · exact ⟨call :: before, port, baudRate, line, after, rfl, still⟩
    · cases call with
      | opening port baudRate got =>
          obtain ⟨line, rfl⟩ := Option.ne_none_iff_exists'.1 gives
          exact ⟨[], port, baudRate, line, calls, rfl, still⟩
      | _ => exact absurd rfl gives

/-- The calls of a holder of at most one line, from what it holds before them and the
number of the next line to what it holds and that number after them. -/
inductive Handled :
    Option SerialLine → Nat → List SerialCall → Option SerialLine → Nat → Prop
  | nil (held : Option SerialLine) (next : Nat) : Handled held next [] held next
  | refused {port : Text} {baudRate : Int} {next next' : Nat} {calls : List SerialCall}
      {held : Option SerialLine} (rest : Handled none next calls held next') :
      Handled none next (.opening port baudRate none :: calls) held next'
  | opening {port : Text} {baudRate : Int} {next next' : Nat} {calls : List SerialCall}
      {held : Option SerialLine}
      (rest : Handled (some ⟨port, next⟩) (next + 1) calls held next') :
      Handled none next (.opening port baudRate (some ⟨port, next⟩) :: calls) held next'
  | use {line : SerialLine} {call : SerialCall} {next next' : Nat} {calls : List SerialCall}
      {held : Option SerialLine} (uses : call.Uses line)
      (rest : Handled (some line) next calls held next') :
      Handled (some line) next (call :: calls) held next'
  | close {line : SerialLine} {next next' : Nat} {calls : List SerialCall}
      {held : Option SerialLine} (rest : Handled none next calls held next') :
      Handled (some line) next (.close line :: calls) held next'

namespace Handled

variable {held held' held'' : Option SerialLine} {next next' next'' : Nat}
  {calls more before after : List SerialCall} {line : SerialLine}

theorem append (first : Handled held next calls held' next')
    (second : Handled held' next' more held'' next'') :
    Handled held next (calls ++ more) held'' next'' := by
  induction first with
  | nil => exact second
  | refused _ ih => exact .refused (ih second)
  | opening _ ih => exact .opening (ih second)
  | use uses _ ih => exact .use uses (ih second)
  | close _ ih => exact .close (ih second)

theorem split (handled : Handled held next (before ++ after) held' next') :
    ∃ middle number, Handled held next before middle number ∧
      Handled middle number after held' next' := by
  induction before generalizing held next with
  | nil => exact ⟨held, next, .nil held next, handled⟩
  | cons call before ih =>
      cases handled with
      | refused rest =>
          obtain ⟨middle, number, front, back⟩ := ih rest
          exact ⟨middle, number, .refused front, back⟩
      | opening rest =>
          obtain ⟨middle, number, front, back⟩ := ih rest
          exact ⟨middle, number, .opening front, back⟩
      | use uses rest =>
          obtain ⟨middle, number, front, back⟩ := ih rest
          exact ⟨middle, number, .use uses front, back⟩
      | close rest =>
          obtain ⟨middle, number, front, back⟩ := ih rest
          exact ⟨middle, number, .close front, back⟩

theorem uses {made : List SerialCall} (each : ∀ call ∈ made, call.Uses line) (next : Nat) :
    Handled (some line) next made (some line) next := by
  induction made with
  | nil => exact .nil _ next
  | cons call made ih =>
      obtain ⟨first, others⟩ := List.forall_mem_cons.1 each
      exact .use first (ih others)

/-- What is held at the end is what was opened last, or what was held all along. -/
theorem isSome_iff (handled : Handled held next calls held' next') :
    held'.isSome = true ↔
      LeftOpen calls ∨ held.isSome = true ∧ ∀ call ∈ calls, call.Still := by
  induction handled with
  | nil held =>
      constructor
      · exact fun some => .inr ⟨some, List.forall_mem_nil _⟩
      · rintro (⟨before, _, _, _, _, split, _⟩ | ⟨some, _⟩)
        · cases before <;> cases split
        · exact some
  | refused rest ih =>
      rw [ih, leftOpen_cons]
      simp [SerialCall.opened?]
  | opening rest ih =>
      rw [ih, leftOpen_cons]
      simp [SerialCall.opened?]
  | @use line call _ _ _ _ uses rest ih =>
      rw [ih, leftOpen_cons, List.forall_mem_cons]
      simp [uses.still, uses.still.1]
  | close rest ih =>
      rw [ih, leftOpen_cons, List.forall_mem_cons]
      simp [SerialCall.opened?, SerialCall.closed?, SerialCall.Still]

theorem numbers (handled : Handled held next calls held' next') :
    ∃ count, (calls.filterMap SerialCall.opened?).map (·.number) = List.range' next count ∧
      next' = next + count := by
  induction handled with
  | nil => exact ⟨0, rfl, rfl⟩
  | refused _ ih => exact ih
  | opening _ ih =>
      obtain ⟨count, opened, last⟩ := ih
      refine ⟨count + 1, ?_, by omega⟩
      rw [List.range'_succ, ← opened]
      rfl
  | use uses _ ih =>
      rw [List.filterMap_cons_none uses.still.1]
      exact ih
  | close _ ih => exact ih

theorem nodup_opened (handled : Handled held next calls held' next') :
    (calls.filterMap SerialCall.opened?).Nodup := by
  obtain ⟨count, opened, _⟩ := handled.numbers
  have distinct : ((calls.filterMap SerialCall.opened?).map (·.number)).Nodup :=
    opened ▸ List.nodup_range'
  exact List.Pairwise.of_map _ (fun _ _ other same => other (congrArg _ same)) distinct

/-- The line that is held has been numbered. -/
theorem numbered (handled : Handled held next calls held' next')
    (bound : ∀ line ∈ held, line.number < next) : ∀ line ∈ held', line.number < next' := by
  induction handled with
  | nil => exact bound
  | refused _ ih => exact ih bound
  | opening _ ih =>
      apply ih
      rintro line ⟨⟩
      exact Nat.lt_succ_self _
  | use _ _ ih => exact ih bound
  | close _ ih =>
      apply ih
      rintro line ⟨⟩

/-- Calls are made on the line that is held, or on lines to be opened. -/
theorem fresh (handled : Handled held next calls held' next') :
    ∀ call ∈ calls, ∀ line ∈ call.on?, line ∈ held ∨ next ≤ line.number := by
  induction handled with
  | nil => exact List.forall_mem_nil _
  | refused _ ih =>
      refine List.forall_mem_cons.2 ⟨?_, ih⟩
      rintro line ⟨⟩
  | opening _ ih =>
      refine List.forall_mem_cons.2 ⟨?_, ?_⟩
      · rintro line ⟨⟩
      · intro call member line on
        rcases ih call member line on with ⟨⟨⟩⟩ | later
        · exact .inr (Nat.le_refl _)
        · exact .inr (by omega)
  | use uses _ ih =>
      refine List.forall_mem_cons.2 ⟨?_, ih⟩
      intro line on
      exact .inl (congrArg some (uses.on? line on).symm)
  | close _ ih =>
      refine List.forall_mem_cons.2 ⟨?_, ?_⟩
      · rintro line ⟨⟩
        exact .inl rfl
      · intro call member line on
        rcases ih call member line on with ⟨⟨⟩⟩ | later
        exact .inr later

/-- Nothing is done with a line that has been closed. -/
theorem unused (handled : Handled none next (before ++ .close line :: after) held next') :
    ∀ call ∈ after, call.on? ≠ some line := by
  obtain ⟨middle, number, front, back⟩ := handled.split
  have bound := front.numbered (by rintro line ⟨⟩)
  cases back with
  | use uses => exact uses.elim
  | close rest =>
      intro call member on
      have numbered := bound line rfl
      rcases rest.fresh call member line on with ⟨⟨⟩⟩ | later
      omega

theorem nodup_closed (handled : Handled held next calls held' next')
    (bound : ∀ line ∈ held, line.number < next) :
    (calls.filterMap SerialCall.closed?).Nodup := by
  induction handled with
  | nil => exact List.nodup_nil
  | refused _ ih => exact ih bound
  | opening _ ih =>
      apply ih
      rintro line ⟨⟩
      exact Nat.lt_succ_self _
  | use uses _ ih =>
      rw [List.filterMap_cons_none uses.still.2]
      exact ih bound
  | @close line _ _ calls _ rest ih =>
      have other : line ∉ calls.filterMap SerialCall.closed? := by
        intro again
        obtain ⟨call, member, closes⟩ := List.mem_filterMap.1 again
        have on := SerialCall.on?_of_closed? closes
        have numbered := bound line rfl
        rcases rest.fresh call member line on with ⟨⟨⟩⟩ | later
        omega
      exact List.nodup_cons.2 ⟨other, ih (by rintro line ⟨⟩)⟩

end Handled

end Breadboard
