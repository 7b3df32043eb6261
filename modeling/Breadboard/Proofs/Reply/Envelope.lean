import Breadboard.Proofs.Text.Part
import Breadboard.Proofs.Text.Trim
import Breadboard.Reply.Envelope
import Breadboard.Reply.Firmware

/-! Replies in lines, each ended by a carriage return and a line feed. Without
escapes the lines come back, and the output is what is left of them. -/

namespace Breadboard

theorem Ansi.strip_of_free {s : Text} (free : escape ∉ s) : strip s = s := by
  induction s with
  | nil => rw [strip]
  | cons c s ih =>
      have other : c ≠ escape := fun same => free (same ▸ List.mem_cons_self)
      rw [strip, if_neg other, ih fun member => free (List.mem_cons_of_mem c member)]

namespace Envelope

def crlf : Text := text "\r\n"

def ended (ls : List Text) : Text := ls.flatMap (· ++ crlf)

theorem lines_append {line : Text} (free : .char '\r' ∉ line) (rest : Text) :
    lines (line ++ (crlf ++ rest)) = line :: lines rest := by
  induction line with
  | nil => rfl
  | cons c line ih =>
      have other : c ≠ .char '\r' := fun same => free (same ▸ List.mem_cons_self)
      have more := ih fun member => free (List.mem_cons_of_mem c member)
      rw [List.cons_append, lines, more]
      rintro tail rfl
      exact absurd rfl other

theorem lines_ended {ls : List Text} (free : ∀ line ∈ ls, .char '\r' ∉ line) :
    lines (ended ls) = ls ++ [[]] := by
  induction ls with
  | nil => rfl
  | cons line rest ih =>
      have others := ih fun other member => free other (List.mem_cons_of_mem line member)
      rw [ended] at others
      rw [ended, List.flatMap_cons, List.append_assoc,
        lines_append (free line List.mem_cons_self), others, List.cons_append]

theorem mem_ended {ls : List Text} {c : CodePoint} (member : c ∈ ended ls) :
    c ∈ crlf ∨ ∃ line ∈ ls, c ∈ line := by
  obtain ⟨line, known, inside⟩ := List.mem_flatMap.1 member
  rcases List.mem_append.1 inside with own | mark
  · exact .inr ⟨line, known, own⟩
  · exact .inl mark

/-- A character that neither ends a line nor begins an escape. -/
def Inert (c : CodePoint) : Prop :=
  c.isLone = false ∧ c ≠ .char '\r' ∧ c ≠ .char '\n' ∧ c ≠ Ansi.escape

instance (c : CodePoint) : Decidable (Inert c) :=
  inferInstanceAs (Decidable (_ ∧ _ ∧ _ ∧ _))

/-- A line that a reply can be made of. -/
def Clean (line : Text) : Prop := ∀ c ∈ line, Inert c

instance (line : Text) : Decidable (Clean line) :=
  inferInstanceAs (Decidable (∀ c ∈ line, Inert c))

theorem Clean.append {a b : Text} (front : Clean a) (back : Clean b) :
    Clean (a ++ b) := by
  intro c member
  rcases List.mem_append.1 member with member | member
  · exact front c member
  · exact back c member

theorem Clean.between {front back inner : Text} (around : Clean (front ++ back))
    (own : Clean inner) : Clean (front ++ (inner ++ back)) := by
  intro c member
  rcases List.mem_append.1 member with lead | member
  · exact around c (List.mem_append_left back lead)
  · rcases List.mem_append.1 member with member | rest
    · exact own c member
    · exact around c (List.mem_append_right front rest)

theorem Clean.no_turn {line : Text} (clean : Clean line) : .char '\r' ∉ line :=
  fun member => (clean _ member).2.1 rfl

theorem Clean.no_feed {line : Text} (clean : Clean line) : .char '\n' ∉ line :=
  fun member => (clean _ member).2.2.1 rfl

theorem strip_ended {ls : List Text} (clean : ∀ line ∈ ls, Clean line) :
    Ansi.strip (ended ls) = ended ls := by
  apply Ansi.strip_of_free
  intro member
  obtain mark | ⟨line, known, inside⟩ := mem_ended member
  · exact absurd mark (by decide)
  · exact (clean line known _ inside).2.2.2 rfl

theorem isLone_of_mem_ended {ls : List Text} (clean : ∀ line ∈ ls, Clean line) :
    ∀ c ∈ ended ls, c.isLone = false := by
  have mark : ∀ c ∈ crlf, c.isLone = false := by decide
  intro c member
  obtain ending | ⟨line, known, inside⟩ := mem_ended member
  · exact mark c ending
  · exact (clean line known c inside).1

/-- Between an echoed command and blank lines there is the output. -/
theorem unwrap_ended {first : Text} (found blank : List Text)
    (clean : ∀ line ∈ first :: (found ++ blank), Clean line)
    (echo : isOutput first.trim = false)
    (out : ∀ line ∈ found, line.trim = line ∧ isOutput line = true)
    (void : ∀ line ∈ blank, line = []) (given : found ≠ []) :
    unwrap (ended (first :: (found ++ blank))) =
      .ok (Text.joinWith (text "\n") found) := by
  have whole := lines_ended fun line known => (clean line known).no_turn
  have kept : (found.map Text.trim).filter isOutput = found := by
    have trimmed : found.map Text.trim = found := by
      conv_rhs => rw [← List.map_id found]
      exact List.map_congr_left fun line member => (out line member).1
    rw [trimmed, List.filter_eq_self]
    exact fun line member => (out line member).2
  have dropped : (blank.map Text.trim).filter isOutput = [] := by
    rw [List.filter_eq_nil_iff]
    intro line member
    obtain ⟨own, known, rfl⟩ := List.mem_map.1 member
    rw [void own known]
    decide
  have left : output (ended (first :: (found ++ blank))) = found := by
    have last : ([[]].map Text.trim).filter isOutput = [] := rfl
    rw [output, whole, List.map_append, List.filter_append, last, List.append_nil,
      List.map_cons, List.filter_cons, echo, if_neg Bool.false_ne_true,
      List.map_append, List.filter_append, kept, dropped, List.append_nil]
  have length : 3 ≤ (lines (ended (first :: (found ++ blank)))).length := by
    have some := List.length_pos_iff.2 given
    rw [whole, List.length_append, List.length_cons, List.length_append,
      List.length_singleton]
    omega
  rw [unwrap, strip_ended clean, left, if_neg (by omega), if_neg given]

/-- A line that begins like no prompt is output. -/
theorem isOutput_of_head? {line : Text} (given : line ≠ [])
    (head : line.head? ≠ some (.char 'P')) : isOutput line = true := by
  have other : line.startsWith prompt = false := by
    rw [Bool.eq_false_iff]
    intro leads
    obtain ⟨rest, rfl⟩ := Text.startsWith_iff.1 leads
    exact head rfl
  rw [isOutput, other, List.isEmpty_eq_false_iff.2 given]
  rfl

theorem voltage_of_unwrap {raw v : Text} (found : unwrap raw = .ok (v ++ text "V"))
    (trimmed : (v ++ text "V").trim = v ++ text "V") :
    voltage raw = .ok (v ++ text "V") := by
  have ends : (v ++ text "V").endsWith (text "V") = true := Text.endsWith_iff.2 ⟨v, rfl⟩
  rw [voltage, found]
  simp only [Except.map, trimmed, ends, if_true]

end Envelope

end Breadboard
