import Breadboard.Proofs.Reply.Escapes
import Mathlib.Data.List.Infix

/-! Replies of the interpreter as a device prints them: an echo, the output and perhaps
a prompt, with blank lines between them, blanks around them and escape sequences
anywhere. Just the output is taken out of them. A reply has none exactly if it has too
few lines or all of them are blank or prompts. -/

namespace Breadboard.Envelope

open Text

/-! Ends of lines. -/

/-- A text in which no line ends. It may have carriage returns and line feeds apart. -/
def Unbroken (s : Text) : Prop := ¬ crlf <:+: s

instance (s : Text) : Decidable (Unbroken s) := inferInstanceAs (Decidable (¬ _))

def lineEnds (s : Text) : Nat := s.tails.countP (crlf.isPrefixOf ·)

theorem unbroken_cons {c : CodePoint} {s : Text} :
    Unbroken (c :: s) ↔ ¬ crlf <+: c :: s ∧ Unbroken s := by
  rw [Unbroken, List.infix_cons_iff, not_or, Unbroken]

theorem unbroken_of_free {s : Text} (free : .char '\r' ∉ s) : Unbroken s :=
  fun found => free (found.subset List.mem_cons_self)

/-- Two texts make a line end only if a carriage return comes before a line feed. -/
theorem Unbroken.append {a b : Text} (front : Unbroken a) (back : Unbroken b)
    (between : a.getLast? ≠ some (.char '\r') ∨ b.head? ≠ some (.char '\n')) :
    Unbroken (a ++ b) := by
  induction a with
  | nil => exact back
  | cons c a ih =>
      obtain ⟨start, later⟩ := unbroken_cons.1 front
      rw [List.cons_append, unbroken_cons]
      cases a with
      | nil =>
          refine ⟨?_, back⟩
          rintro ⟨rest, same⟩
          cases same
          exact between.elim (fun other => other rfl) fun other => other rfl
      | cons d a =>
          rw [List.getLast?_cons_cons] at between
          refine ⟨?_, ih later between⟩
          rintro ⟨rest, same⟩
          cases same
          exact start ⟨a, rfl⟩

theorem lines_row {line : Text} (unbroken : Unbroken line) (rest : Text) :
    lines (line ++ (crlf ++ rest)) = line :: lines rest := by
  induction line with
  | nil => rfl
  | cons c line ih =>
      obtain ⟨start, later⟩ := unbroken_cons.1 unbroken
      rw [List.cons_append, lines, ih later]
      rintro tail rfl same
      cases line with
      | nil => cases same
      | cons d line =>
          cases same
          exact start ⟨line, rfl⟩

theorem lines_of_unbroken {line : Text} (unbroken : Unbroken line) : lines line = [line] := by
  induction line with
  | nil => rfl
  | cons c line ih =>
      obtain ⟨start, later⟩ := unbroken_cons.1 unbroken
      rw [lines, ih later]
      rintro tail rfl rfl
      exact start ⟨tail, rfl⟩

theorem lines_ne_nil (s : Text) : lines s ≠ [] := by
  fun_cases lines s <;> exact List.cons_ne_nil _ _

theorem lineEnds_cons (c : CodePoint) (s : Text) :
    lineEnds (c :: s) = lineEnds s + if crlf <+: c :: s then 1 else 0 := by
  rw [lineEnds, List.tails_cons, List.countP_cons, lineEnds]
  simp only [List.isPrefixOf_iff_prefix]

theorem lineEnds_crlf (s : Text) : lineEnds (.char '\r' :: .char '\n' :: s) = lineEnds s + 1 := by
  have feed : ¬ crlf <+: .char '\n' :: s := by
    rintro ⟨rest, same⟩
    cases same
  rw [lineEnds_cons, if_pos ⟨s, rfl⟩, lineEnds_cons, if_neg feed]

/-- There is one line more than there are line ends. -/
theorem length_lines (s : Text) : (lines s).length = lineEnds s + 1 := by
  fun_induction lines s with
  | case1 => rfl
  | case2 s ih => rw [List.length_cons, ih, lineEnds_crlf]
  | case3 c s other none ih => exact absurd none (lines_ne_nil s)
  | case4 c s other line rest found ih =>
      have plain : ¬ crlf <+: c :: s := by
        rintro ⟨rest, same⟩
        cases same
        exact other rest rfl rfl
      rw [lineEnds_cons, if_neg plain, Nat.add_zero, ← ih, found]
      rfl

/-! What is output. -/

theorem isOutput_eq_false {line : Text} :
    isOutput line = false ↔ line = [] ∨ prompt <+: line := by
  have leads : line.startsWith prompt = true ↔ prompt <+: line := by
    rw [startsWith_iff]
    exact ⟨fun ⟨rest, whole⟩ => ⟨rest, whole.symm⟩, fun ⟨rest, whole⟩ => ⟨rest, whole.symm⟩⟩
  rw [isOutput, ← leads]
  cases line.startsWith prompt <;> simp

theorem output_eq_nil {s : Text} :
    output s = [] ↔ ∀ line ∈ lines s, Void line ∨ prompt <+: line.trim := by
  rw [output, List.filter_eq_nil_iff, List.forall_mem_map]
  refine forall₂_congr fun line _ => ?_
  rw [Bool.not_eq_true, isOutput_eq_false, trim_eq_nil_iff]

theorem unwrap_eq_error {raw : Text} :
    (∃ fault, unwrap raw = .error fault) ↔
      (lines (Ansi.strip raw)).length < 3 ∨ output (Ansi.strip raw) = [] := by
  rw [unwrap]
  split
  · next few => exact ⟨fun _ => .inl few, fun _ => ⟨_, rfl⟩⟩
  · next enough =>
      split
      · next none => exact ⟨fun _ => .inr none, fun _ => ⟨_, rfl⟩⟩
      · next some =>
          constructor
          · rintro ⟨_, ⟨⟩⟩
          · exact fun either => (either.elim enough some).elim

/-! Replies in lines. -/

structure Spacing (w : Text) : Prop where
  void : Void w
  unbroken : Unbroken w

theorem spacing_of {w : Text} (void : Void w) (free : .char '\n' ∉ w) : Spacing w where
  void := void
  unbroken found := free (found.subset (by decide))

/-- Lines that print each of some texts with blanks around it, and blank lines among
them. -/
inductive Rows : List Text → Text → Prop
  | nil : Rows [] []
  | blank {w rest : Text} {ls : List Text} (spacing : Spacing w) (rows : Rows ls rest) :
      Rows ls (w ++ (crlf ++ rest))
  | row {before line after rest : Text} {ls : List Text} (indent : Spacing before)
      (trail : Spacing after) (rows : Rows ls rest) :
      Rows (line :: ls) (before ++ (line ++ after) ++ (crlf ++ rest))

def echo (command : Text) : Text := prompt ++ text " >" ++ command

/-- What a reply ends with: blanks, or a prompt whose line has not ended. -/
inductive Rest : Text → Prop
  | blank {w : Text} (spacing : Spacing w) : Rest w
  | waiting {before after : Text} (indent : Spacing before) (trail : Spacing after) :
      Rest (before ++ (prompt ++ after))

/-- The reply to a command: its echo, its output and perhaps a prompt, in lines of which
that of the prompt need not end. -/
inductive Reply (command : Text) (found : List Text) : Text → Prop
  | mk {gap before body rest : Text} {last : List Text} (lead : Rows [] gap)
      (indent : Spacing before) (prompts : last = [] ∨ last = [prompt])
      (rows : Rows (found ++ last) body) (ending : Rest rest) :
      Reply command found (gap ++ (before ++ echo command ++ (crlf ++ (body ++ rest))))

structure OutputLine (line : Text) : Prop where
  solid : Solid line
  unbroken : Unbroken line
  other : ¬ prompt <+: line

theorem Spacing.around {before line after : Text} (indent : Spacing before)
    (solid : Solid line) (unbroken : Unbroken line) (trail : Spacing after) :
    Unbroken (before ++ (line ++ after)) := by
  have last : line.getLast? ≠ some (.char '\r') := fun turn =>
    absurd (solid.last _ turn) (by decide)
  have head : (line ++ after).head? ≠ some (.char '\n') := by
    rw [List.head?_append_of_ne_nil _ solid.given]
    exact fun feed => absurd (solid.head _ feed) (by decide)
  exact indent.unbroken.append (unbroken.append trail.unbroken (.inl last)) (.inr head)

theorem Spacing.trim {before line after : Text} (indent : Spacing before)
    (solid : Solid line) (trail : Spacing after) :
    Text.trim (before ++ (line ++ after)) = line := by
  rw [trim_append_of_void_left indent.void, trim_append_of_void_right _ trail.void,
    solid.trim]

theorem output_row {line : Text} (unbroken : Unbroken line) (rest : Text) :
    output (line ++ (crlf ++ rest)) = [line.trim].filter isOutput ++ output rest := by
  rw [output, lines_row unbroken, List.map_cons, ← List.singleton_append,
    List.filter_append, ← output]

theorem output_of_unbroken {line : Text} (unbroken : Unbroken line) :
    output line = [line.trim].filter isOutput := by
  rw [output, lines_of_unbroken unbroken, List.map_singleton]

theorem output_spacing {w : Text} (spacing : Spacing w) : [w.trim].filter isOutput = [] := by
  rw [trim_eq_nil_iff.2 spacing.void]
  rfl

theorem output_rows {ls : List Text} {body : Text} (rows : Rows ls body)
    (solid : ∀ line ∈ ls, Solid line ∧ Unbroken line) (rest : Text) :
    output (body ++ rest) = ls.filter isOutput ++ output rest := by
  induction rows with
  | nil => rfl
  | blank spacing _ ih =>
      rw [List.append_assoc, List.append_assoc, output_row spacing.unbroken,
        output_spacing spacing, ih solid, List.nil_append]
  | @row before line after _ ls indent trail _ ih =>
      obtain ⟨⟨first, whole⟩, more⟩ := List.forall_mem_cons.1 solid
      rw [List.append_assoc, List.append_assoc crlf,
        output_row (indent.around first whole trail), indent.trim first trail, ih more,
        ← List.append_assoc, ← List.filter_append, List.singleton_append]

theorem lineEnds_row (line rest : Text) :
    lineEnds rest < lineEnds (line ++ (crlf ++ rest)) := by
  induction line with
  | nil => exact (Nat.lt_succ_self _).trans_eq (lineEnds_crlf rest).symm
  | cons c line ih =>
      rw [List.cons_append, lineEnds_cons]
      omega

theorem lineEnds_rows {ls : List Text} {body : Text} (rows : Rows ls body) (rest : Text) :
    ls.length + lineEnds rest ≤ lineEnds (body ++ rest) := by
  induction rows with
  | nil => exact (Nat.zero_add _).le
  | @blank w body _ _ _ ih =>
      have more := lineEnds_row w (body ++ rest)
      rw [List.append_assoc, List.append_assoc]
      exact ih.trans more.le
  | @row before line after body ls _ _ _ ih =>
      have more := lineEnds_row (before ++ (line ++ after)) (body ++ rest)
      rw [List.append_assoc, List.append_assoc crlf, List.length_cons]
      omega

theorem solid_prompt : Solid prompt := by decide

theorem unbroken_prompt : Unbroken prompt := unbroken_of_free (by decide)

theorem unbroken_echo {before command : Text} (indent : Spacing before)
    (unbroken : Unbroken command) : Unbroken (before ++ echo command) := by
  have lead : Unbroken (prompt ++ text " >") := unbroken_of_free (by decide)
  have whole : Unbroken (echo command) := lead.append unbroken (.inl (by decide))
  have head : (echo command).head? = some (.char 'P') := rfl
  exact indent.unbroken.append whole (.inr (by rw [head]; decide))

theorem isOutput_echo {before : Text} (indent : Spacing before) (command : Text) :
    isOutput (before ++ echo command).trim = false := by
  have lead : Solid (prompt ++ text " >") := by decide
  rw [trim_append_of_void_left indent.void, echo, lead.trim_append, isOutput_eq_false,
    List.append_assoc]
  exact .inr (List.prefix_append _ _)

theorem output_rest {rest : Text} (ending : Rest rest) : output rest = [] := by
  cases ending with
  | blank spacing => rw [output_of_unbroken spacing.unbroken, output_spacing spacing]
  | waiting indent trail =>
      rw [output_of_unbroken (indent.around solid_prompt unbroken_prompt trail),
        indent.trim solid_prompt trail]
      rfl

theorem output_reply {command reply : Text} {found : List Text} (unbroken : Unbroken command)
    (each : ∀ line ∈ found, OutputLine line) (shape : Reply command found reply) :
    output reply = found := by
  obtain ⟨lead, indent, prompts, rows, ending⟩ := shape
  next before _ _ last =>
  have solid : ∀ line ∈ found ++ last, Solid line ∧ Unbroken line := by
    intro line member
    rcases List.mem_append.1 member with member | member
    · exact ⟨(each line member).solid, (each line member).unbroken⟩
    · rcases prompts with rfl | rfl
      · cases member
      · cases List.mem_singleton.1 member
        exact ⟨solid_prompt, unbroken_prompt⟩
  have own : found.filter isOutput = found := by
    rw [List.filter_eq_self]
    intro line member
    rw [← Bool.not_eq_false, isOutput_eq_false, not_or]
    exact ⟨(each line member).solid.given, (each line member).other⟩
  have none : last.filter isOutput = [] := by
    rcases prompts with rfl | rfl
    · rfl
    · rfl
  rw [output_rows lead (List.forall_mem_nil _), output_row (unbroken_echo indent unbroken),
    List.filter_singleton, isOutput_echo indent command, output_rows rows solid,
    output_rest ending, List.filter_append, own, none, List.append_nil, List.append_nil]
  rfl

theorem lineEnds_reply {command reply : Text} {found : List Text}
    (shape : Reply command found reply) : found.length < lineEnds reply := by
  obtain ⟨lead, indent, prompts, rows, ending⟩ := shape
  next gap before body rest last =>
  have front := lineEnds_rows lead (before ++ echo command ++ (crlf ++ (body ++ rest)))
  have middle := lineEnds_row (before ++ echo command) (body ++ rest)
  have back := lineEnds_rows rows rest
  rw [List.length_append] at back
  omega

/-- Exactly the output is taken out of a reply with escape sequences anywhere in it, and
a text has none exactly if it has not two line ends or all of its lines are blank or
prompts. -/
theorem unwrap_reply :
    (∀ (command : Text) (found : List Text) (parts : List Ansi.Part), Unbroken command →
      found ≠ [] → (∀ line ∈ found, OutputLine line) →
      Reply command found (Ansi.kept parts) →
      unwrap (Ansi.written parts) = .ok (joinWith (text "\n") found)) ∧
    ∀ raw, (∃ fault, unwrap raw = .error fault) ↔ lineEnds (Ansi.strip raw) < 2 ∨
      ∀ line ∈ lines (Ansi.strip raw), Void line ∨ prompt <+: line.trim := by
  constructor
  · intro command found parts unbroken given each shape
    have some := List.length_pos_iff.2 given
    have ends := lineEnds_reply shape
    have count := length_lines (Ansi.kept parts)
    rw [unwrap, Ansi.strip_written, output_reply unbroken each shape, if_neg (by omega),
      if_neg given]
  · intro raw
    rw [unwrap_eq_error, output_eq_nil, length_lines, Nat.succ_lt_succ_iff]

/-- A reply with a blank line in front, a command and a line of output over two rows of
the screen, output that looks like a prompt, and sequences within the prompt and between
a carriage return and its line feed. -/
def coloured : List Ansi.Part := [
  .piece (text " \r") (by decide),
  .sequence _ (@Ansi.Complete.control (text "?2") (text " ") (.char 'h') (by decide) (by decide)
    (by decide)),
  .piece (text "\n\tPyth") (by decide),
  .sequence _ (@Ansi.Complete.command (text "0;>[m") [Ansi.bell] (by decide) (by decide)),
  .sequence _ (@Ansi.Complete.pair (.char 'M') (by decide)),
  .piece (text "on> >f(\n)\r\r\n  3.3\n V\r\n\r\nPython >\r") (by decide),
  .sequence _ (@Ansi.Complete.command [] [Ansi.escape, .char '\\'] (by decide) (by decide)),
  .piece (text "\nPython> ") (by decide)]

theorem coloured_reply :
    let found := [text "3.3\n V", text "Python >"]
    Unbroken (text "f(\n)\r") ∧ found ≠ [] ∧ (∀ line ∈ found, OutputLine line) ∧
      Reply (text "f(\n)\r") found (Ansi.kept coloured) ∧
      unwrap (Ansi.written coloured) = .ok (text "3.3\n V\nPython >") := by
  intro found
  have none : Spacing [] := spacing_of (by decide) (by decide)
  have two : Spacing (text "  ") := spacing_of (by decide) (by decide)
  have one : Spacing (text " ") := spacing_of (by decide) (by decide)
  have tab : Spacing (text "\t") := spacing_of (by decide) (by decide)
  have command : Unbroken (text "f(\n)\r") := by decide
  have each : ∀ line ∈ found, OutputLine line := by
    simp only [found, List.forall_mem_cons]
    exact ⟨⟨by decide, unbroken_of_free (by decide), by decide⟩,
      ⟨by decide, unbroken_of_free (by decide), by decide⟩, List.forall_mem_nil _⟩
  have rows : Rows (found ++ []) (text "  3.3\n V\r\n\r\nPython >\r\n") :=
    .row two none (.blank none (.row none none .nil))
  have shape : Reply (text "f(\n)\r") found (Ansi.kept coloured) :=
    @Reply.mk (text "f(\n)\r") found _ _ _ _ _ (.blank one .nil) tab (.inl rfl) rows
      (.waiting none one)
  exact ⟨command, List.cons_ne_nil _ _, each, shape,
    unwrap_reply.1 _ found coloured command (List.cons_ne_nil _ _) each shape⟩

end Breadboard.Envelope
