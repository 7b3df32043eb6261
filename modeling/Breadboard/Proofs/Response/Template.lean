import Breadboard.Proofs.Response.Delivery
import Breadboard.Proofs.Reply.Envelope
import Mathlib.Data.List.Forall2

/-! What a template becomes, part by part: its references are filled from a
match, and its placeholders from a board. -/

namespace Breadboard

/-! References to groups. -/

namespace TemplatePart

theorem all_cons_point {c : CodePoint} (other : c ≠ .char '$') (s : Text) :
    all (c :: s) = .point c :: all s := by
  rw [all, if_neg other]

theorem all_reference {s rest : Text} {digits : List Nat}
    (found : reference? s = some (digits, rest)) :
    all (.char '$' :: s) = .reference digits :: all rest := by
  rw [all, if_pos rfl]
  split
  · next same =>
      rw [found] at same
      cases same
      rfl
  · next missed =>
      rw [found] at missed
      cases missed

end TemplatePart

namespace Match

open TemplatePart

variable {s rest : Text} {digits : List Nat}

theorem expand_nil (m : Match) : m.expand [] = .ok [] := by
  rw [expand, all]
  rfl

/-- One part is filled, and then what follows it. -/
theorem expand_part (m : Match) {part : TemplatePart} (parts : all s = part :: all rest) :
    m.expand s =
      (part.fill m).bind fun filled => (m.expand rest).map (filled ++ ·) := by
  rw [expand, expand, parts, List.mapM_cons]
  cases part.fill m with
  | error fault => rfl
  | ok filled => cases (all rest).mapM (fill m) <;> rfl

theorem expand_append (m : Match) (free : .char '$' ∉ s) (rest : Text) :
    m.expand (s ++ rest) = (m.expand rest).map (s ++ ·) := by
  induction s with
  | nil =>
      rw [List.nil_append]
      cases m.expand rest <;> rfl
  | cons c s ih =>
      have other : c ≠ .char '$' := fun same => free (same ▸ List.mem_cons_self)
      have more := ih fun member => free (List.mem_cons_of_mem c member)
      rw [List.cons_append, expand_part m (all_cons_point other _), more]
      cases m.expand rest <;> rfl

theorem expand_of_free (m : Match) (free : .char '$' ∉ s) : m.expand s = .ok s := by
  have whole := expand_append m free []
  rwa [List.append_nil, expand_nil, Except.map, List.append_nil] at whole

theorem expand_reference (m : Match) (found : reference? s = some (digits, rest)) :
    m.expand (.char '$' :: s) = (ofDigits? digits).bind fun k =>
      (m.expand rest).map ((m.group? k).getD [] ++ ·) := by
  rw [expand_part m (all_reference found), fill]
  cases ofDigits? digits <;> rfl

end Match

/-! Placeholders. -/

namespace Placeholder

open Depth

/-- A text that opens and closes nothing. -/
def Braceless (s : Text) : Prop := openBrace ∉ s ∧ closeBrace ∉ s

instance (s : Text) : Decidable (Braceless s) :=
  inferInstanceAs (Decidable (_ ∧ _))

variable {board : Board} {s t s' t' : Text}

theorem Braceless.append (front : Braceless s) (back : Braceless t) :
    Braceless (s ++ t) :=
  ⟨List.not_mem_append front.1 back.1, List.not_mem_append front.2 back.2⟩

theorem Braceless.free (braceless : Braceless s) : ¬ Occurs s :=
  not_occurs_of_unclosed fun found =>
    braceless.2 (found.subset (by rw [closing_eq]; exact List.mem_cons_self))

theorem Plain.braceless (plain : Plain s) : Braceless s :=
  ⟨fun member => (plain.harmless _ member).2.1 rfl,
    fun member => (plain.harmless _ member).2.2 rfl⟩

theorem braceless_of_isWord (letters : ∀ c ∈ s, c.isWord = true) : Braceless s :=
  ⟨fun member => (ne_braces_of_isWord (letters _ member)).1 rfl,
    fun member => (ne_braces_of_isWord (letters _ member)).2 rfl⟩

theorem Braceless.run (braceless : Braceless s) {d : Depth} (steady : d.onOther = d) :
    d.run s = d := by
  induction s with
  | nil => rfl
  | cons c s ih =>
      obtain ⟨noOpen, noClose⟩ := braceless
      have other : d.step c = d := by
        rw [step_other d (fun same => noOpen (same ▸ List.mem_cons_self))
          (fun same => noClose (same ▸ List.mem_cons_self)), steady]
      rw [run_cons, other]
      exact ih ⟨fun member => noOpen (List.mem_cons_of_mem c member),
        fun member => noClose (List.mem_cons_of_mem c member)⟩

/-- A text that ends outside of groups, and what it becomes wherever it stands. -/
structure Becomes (board : Board) (s t : Text) : Prop where
  outer : outside.run s = outside
  resolves : resolve? board s = some t

theorem Braceless.becomes (braceless : Braceless s) : Becomes board s s where
  outer := braceless.run rfl
  resolves := resolve?_of_free board braceless.free

theorem Becomes.append (front : Becomes board s s') (back : Becomes board t t') :
    Becomes board (s ++ t) (s' ++ t') where
  outer := by rw [run_append, front.outer, back.outer]
  resolves := by
    rw [resolve?_append board (.sealing front.outer), front.resolves, back.resolves]
    rfl

theorem Becomes.between {front back : Text} (braceless : Braceless (front ++ back))
    (becomes : Becomes board s t) :
    Becomes board (front ++ (s ++ back)) (front ++ (t ++ back)) := by
  have lead : Braceless front :=
    ⟨fun member => braceless.1 (List.mem_append_left back member),
      fun member => braceless.2 (List.mem_append_left back member)⟩
  have rest : Braceless back :=
    ⟨fun member => braceless.1 (List.mem_append_right front member),
      fun member => braceless.2 (List.mem_append_right front member)⟩
  exact lead.becomes.append (becomes.append rest.becomes)

theorem Becomes.ended {ls ls' : List Text} (each : List.Forall₂ (Becomes board) ls ls') :
    Becomes board (Envelope.ended ls) (Envelope.ended ls') := by
  have crlf : Becomes board Envelope.crlf Envelope.crlf :=
    Braceless.becomes (by decide)
  induction each with
  | nil => exact Braceless.becomes (s := []) (by decide)
  | cons first _ ih => exact (first.append crlf).append ih

theorem becomes_all {ls : List Text} (braceless : ∀ line ∈ ls, Braceless line) :
    List.Forall₂ (Becomes board) ls ls :=
  List.forall₂_same.2 fun line member => (braceless line member).becomes

/-! One placeholder. -/

variable {stands : Text → Option Text → Prop} {at? : Text.Recogniser} {inner : Text}
  {out : Option Text}

theorem outer_braced (braceless : Braceless inner) :
    outside.run (braced inner) = outside := by
  have inside : outside.onOpen.onOpen = inside := rfl
  rw [braced, run_append, run_append, run_opening, inside, braceless.run rfl,
    run_closing]
  rfl

/-- No placeholder stands in another whose inner text has no braces. -/
theorem eq_of_infix_braced {other : Text} (braceless : Braceless inner)
    (found : braced other <:+: braced inner) : other = inner := by
  obtain ⟨u, v, whole⟩ := found
  have count (c : CodePoint) (word : Text) : (braced word).count c =
      opening.count c + word.count c + closing.count c := by
    rw [braced, List.count_append, List.count_append]
  have opens := congrArg (List.count openBrace) whole
  have closes := congrArg (List.count closeBrace) whole
  rw [List.count_append, List.count_append, count, count,
    List.count_eq_zero.2 braceless.1] at opens
  rw [List.count_append, List.count_append, count, count,
    List.count_eq_zero.2 braceless.2] at closes
  have noOpen : openBrace ∉ u := List.count_eq_zero.1 (by omega)
  have noClose : closeBrace ∉ v := List.count_eq_zero.1 (by omega)
  have front : u = [] := by
    cases u with
    | nil => rfl
    | cons c u =>
        have lead : c = openBrace := (List.cons.inj whole).1
        exact absurd (lead ▸ List.mem_cons_self) noOpen
  have back : v = [] := by
    rcases List.eq_nil_or_concat' v with rfl | ⟨v, c, rfl⟩
    · rfl
    · have last := congrArg List.getLast? whole
      rw [← List.append_assoc, List.getLast?_concat, braced,
        closing_eq, List.getLast?_append_of_ne_nil _ (List.cons_ne_nil _ _)] at last
      have ends : c = closeBrace := Option.some.inj last
      exact absurd (ends ▸ List.mem_append_right v List.mem_cons_self) noClose
  rw [front, back, List.nil_append, List.append_nil, braced, braced] at whole
  exact List.append_cancel_left (List.append_cancel_right whole)

/-- A recogniser leaves a placeholder of another kind as it is. -/
theorem Slot.replaceBy?_foreign (slot : Slot stands at?) (braceless : Braceless inner)
    (foreign : ∀ out, ¬ stands inner out) :
    Text.replaceBy? at? (braced inner) = some (braced inner) := by
  have missed : ∀ rest : Text, rest <:+ braced inner →
      Text.replaceBy? at? rest = some rest := by
    intro rest
    induction rest with
    | nil => exact fun _ => replaceBy?_nil
    | cons c rest ih =>
        intro ending
        have none : at? (c :: rest) = none := by
          rw [Option.eq_none_iff_forall_ne_some]
          rintro ⟨out, n⟩ found
          obtain ⟨other, more, shape, known, _⟩ := slot.found found
          have part : braced other <:+: c :: rest := ⟨[], more, shape.symm⟩
          have same := eq_of_infix_braced braceless (part.trans ending.isInfix)
          exact foreign out (same ▸ known)
        rw [replaceBy?_cons none, ih ((List.suffix_cons c rest).trans ending),
          Option.map_some]
  exact missed _ List.suffix_rfl

theorem Slot.replaceBy?_own (slot : Slot stands at?) (known : stands inner out) :
    Text.replaceBy? at? (braced inner) = out := by
  have whole := slot.replaceBy?_braced known []
  rw [List.append_nil, replaceBy?_nil] at whole
  rw [whole]
  cases out with
  | none => rfl
  | some value => exact congrArg some (List.append_nil value)

/-- A recogniser that has nothing to do with a placeholder. -/
def Foreign (inner : Text) (at? : Text.Recogniser) : Prop :=
  ∃ stands, Slot stands at? ∧ ∀ out, ¬ stands inner out

theorem Kind.foreign {kind : Kind} (other : wordOf inner ≠ kind.word) :
    Foreign inner kind.at? :=
  ⟨kind.stands, kind.slot, fun _ known => other (kind.leads known)⟩

/-- In whatever order the passes come, the one that knows a placeholder settles
what becomes of it. -/
theorem pass?_braced {order : List Kind} (apart : (order.map Kind.word).Nodup)
    {kind : Kind} (member : kind ∈ order) (known : kind.stands inner out)
    (braceless : Braceless inner) : pass? (order.map Kind.at?) (braced inner) = out := by
  induction order with
  | nil => cases member
  | cons first rest ih =>
      rw [List.map_cons, List.nodup_cons] at apart
      rw [List.map_cons, pass?_cons]
      rcases List.mem_cons.1 member with rfl | later
      · rw [kind.slot.replaceBy?_own known]
        cases out with
        | none => rfl
        | some value =>
            exact pass?_of_free (slot_of_mem_map rest) (kind.slot.plain known).braceless.free
      · have other : wordOf inner ≠ first.word := by
          rw [kind.leads known]
          exact fun same => apart.1 (same ▸ List.mem_map_of_mem later)
        obtain ⟨_, slot, foreign⟩ := Kind.foreign other
        rw [slot.replaceBy?_foreign braceless foreign, Option.bind_some]
        exact ih apart.2 later

theorem becomes_braced {kind : Kind} (member : kind ∈ Kind.all board)
    (known : kind.stands inner (some t)) (braceless : Braceless inner) :
    Becomes board (braced inner) t where
  outer := outer_braced braceless
  resolves := pass?_braced (Kind.nodup_word_all board) member known braceless

theorem braceless_named (word : String) {name : Text} (known : Braceless (text word))
    (letters : ∀ c ∈ name, c.isWord = true) :
    Braceless (text word ++ text ":" ++ name) :=
  (known.append (by decide)).append (braceless_of_isWord letters)

/-- The name of a channel stands for its voltage, with the unit. -/
theorem becomes_voltage (board : Board) {name : Text} (given : name ≠ [])
    (letters : ∀ c ∈ name, c.isWord = true) :
    Becomes board (braced (text "dac_voltage" ++ text ":" ++ name))
      (volts (board.dacVoltage? name) ++ text "V") :=
  becomes_braced List.mem_cons_self (.intro name given letters)
    (braceless_named "dac_voltage" (by decide) letters)

/-- The same, without the unit. -/
theorem becomes_value (board : Board) {name : Text} (given : name ≠ [])
    (letters : ∀ c ∈ name, c.isWord = true) :
    Becomes board (braced (text "dac_value" ++ text ":" ++ name))
      (volts (board.dacVoltage? name)) :=
  becomes_braced (List.mem_cons_of_mem _ List.mem_cons_self) (.intro name given letters)
    (braceless_named "dac_value" (by decide) letters)

end Placeholder

end Breadboard
