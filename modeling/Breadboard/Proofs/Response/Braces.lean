import Breadboard.Proofs.Response.Placeholder
import Mathlib.Data.List.Induction

/-! How deep a text stands in double braces, followed point by point. Where no
group is opened inside another, a placeholder is replaced without a change of
depth, so all passes see the same groups. -/

namespace Breadboard

namespace Placeholder

theorem opening_eq : opening = [openBrace, openBrace] := rfl

theorem closing_eq : closing = [closeBrace, closeBrace] := rfl

/-- A group in double braces, up to its first closing, holds another opening. -/
def Nested (s : Text) : Prop :=
  ∃ before group after, s = before ++ opening ++ group ++ closing ++ after ∧
    opening <:+: group ∧ ¬ closing <:+: group ++ [closeBrace]

theorem Nested.append {s : Text} (nested : Nested s) (t : Text) :
    Nested (s ++ t) := by
  obtain ⟨before, group, after, rfl, holds, first⟩ := nested
  exact ⟨before, group, after ++ t, by simp only [List.append_assoc], holds,
    first⟩

theorem Nested.prepend {s : Text} (nested : Nested s) (t : Text) :
    Nested (t ++ s) := by
  obtain ⟨before, group, after, rfl, holds, first⟩ := nested
  exact ⟨t ++ before, group, after, by simp only [List.append_assoc], holds,
    first⟩

/-- Where a text stands: outside of groups, perhaps after one brace; inside a
group, perhaps after one brace of either kind; in a group that holds another
opening, perhaps after one closing brace; or past the end of such a group. -/
inductive Depth
  | outside
  | half
  | inside
  | opened
  | closed
  | deep
  | deepClosed
  | broken
  deriving DecidableEq

namespace Depth

def onOpen : Depth → Depth
  | .outside => .half
  | .half => .inside
  | .inside | .closed => .opened
  | .opened | .deep | .deepClosed => .deep
  | .broken => .broken

def onClose : Depth → Depth
  | .outside | .half | .closed => .outside
  | .inside | .opened => .closed
  | .deep => .deepClosed
  | .deepClosed | .broken => .broken

def onOther : Depth → Depth
  | .outside | .half => .outside
  | .inside | .opened | .closed => .inside
  | .deep | .deepClosed => .deep
  | .broken => .broken

def step (d : Depth) (c : CodePoint) : Depth :=
  if c = openBrace then d.onOpen
  else if c = closeBrace then d.onClose
  else d.onOther

def run (d : Depth) (s : Text) : Depth := s.foldl step d

@[simp]
theorem step_openBrace (d : Depth) : d.step openBrace = d.onOpen := rfl

theorem step_other (d : Depth) {c : CodePoint} (notOpen : c ≠ openBrace)
    (notClose : c ≠ closeBrace) : d.step c = d.onOther := by
  rw [step, if_neg notOpen, if_neg notClose]

@[elab_as_elim]
theorem step_cases {motive : Depth → Prop} (d : Depth) (c : CodePoint)
    (opens : c = openBrace → motive d.onOpen)
    (closes : c = closeBrace → motive d.onClose)
    (other : c ≠ openBrace → c ≠ closeBrace → motive d.onOther) :
    motive (d.step c) := by
  by_cases isOpen : c = openBrace
  · rw [isOpen]
    exact opens isOpen
  · by_cases isClose : c = closeBrace
    · rw [isClose]
      exact closes isClose
    · rw [step_other d isOpen isClose]
      exact other isOpen isClose

@[simp]
theorem run_nil (d : Depth) : d.run [] = d := rfl

@[simp]
theorem run_cons (d : Depth) (c : CodePoint) (s : Text) :
    d.run (c :: s) = (d.step c).run s := rfl

theorem run_append (d : Depth) (s t : Text) :
    d.run (s ++ t) = (d.run s).run t :=
  List.foldl_append

theorem run_opening (d : Depth) : d.run opening = d.onOpen.onOpen := rfl

theorem run_closing (d : Depth) : d.run closing = d.onClose.onClose := rfl

theorem run_broken (s : Text) : broken.run s = broken := by
  induction s with
  | nil => rfl
  | cons c s ih =>
      have stays : broken.step c = broken :=
        step_cases broken c (fun _ => rfl) (fun _ => rfl) fun _ _ => rfl
      rw [run_cons, stays, ih]

/-! Values and placeholders between groups. -/

def Outer (d : Depth) : Prop := d = outside ∨ d = half

theorem Outer.onOther {d : Depth} (outer : d.Outer) : d.onOther = outside := by
  rcases outer with rfl | rfl <;> rfl

theorem onOpen_ne_outside (d : Depth) : d.onOpen ≠ outside := by
  cases d <;> decide

theorem eq_outside_of_onOpen {d : Depth} (outer : d.onOpen.Outer) :
    d = outside := by
  rcases outer with equality | equality
  · exact absurd equality (onOpen_ne_outside d)
  · cases d <;> cases equality
    rfl

theorem run_plain {d : Depth} (outer : d.Outer) {s : Text} (plain : Plain s) :
    d.run s = outside := by
  have steady : ∀ t : Text, (∀ c ∈ t, Harmless c) →
      outside.run t = outside := by
    intro t harmless
    induction t with
    | nil => rfl
    | cons c t ih =>
        obtain ⟨_, notOpen, notClose⟩ := harmless c (List.mem_cons_self ..)
        rw [run_cons, step_other outside notOpen notClose]
        exact ih fun e member => harmless e (List.mem_cons_of_mem _ member)
  cases s with
  | nil => exact absurd rfl plain.nonempty
  | cons c t =>
      obtain ⟨_, notOpen, notClose⟩ :=
        plain.harmless c (List.mem_cons_self ..)
      rw [run_cons, step_other d notOpen notClose, outer.onOther]
      exact steady t fun e member =>
        plain.harmless e (List.mem_cons_of_mem _ member)

/-- In a group that holds another opening, or past one. -/
def Sunk : Depth → Prop
  | .deep | .deepClosed | .broken => True
  | _ => False

theorem sunk_opening {d : Depth} (notOuter : ¬ d.Outer) :
    d.onOpen.onOpen.Sunk := by
  cases d with
  | outside => exact notOuter (.inl rfl)
  | half => exact notOuter (.inr rfl)
  | _ => trivial

theorem Sunk.step {d : Depth} (sunk : d.Sunk) (c : CodePoint) :
    (d.step c).Sunk := by
  refine step_cases d c (fun _ => ?_) (fun _ => ?_) fun _ _ => ?_
  · cases d <;> trivial
  · cases d <;> trivial
  · cases d <;> trivial

theorem Sunk.run {d : Depth} (sunk : d.Sunk) (s : Text) : (d.run s).Sunk := by
  induction s generalizing d with
  | nil => exact sunk
  | cons c s ih => exact ih (sunk.step c)

theorem Sunk.closing {d : Depth} (sunk : d.Sunk) :
    d.onClose.onClose = broken := by
  cases d <;> first | rfl | exact sunk.elim

theorem Sunk.run_of_closing {d : Depth} (sunk : d.Sunk) {s : Text}
    (closes : Placeholder.closing <:+: s) : d.run s = broken := by
  obtain ⟨before, after, rfl⟩ := closes
  rw [run_append, run_append, run_closing, (sunk.run before).closing,
    run_broken]

theorem onClose_onClose (d : Depth) :
    d.onClose.onClose = outside ∨ d.onClose.onClose = broken := by
  cases d <;> first | exact .inl rfl | exact .inr rfl

theorem run_braced_of_ne {d : Depth} {inner : Text}
    (whole : d.run (braced inner) ≠ broken) :
    d.Outer ∧ d.run (braced inner) = outside := by
  have shape : d.run (braced inner) =
      ((d.onOpen.onOpen).run inner).onClose.onClose := by
    rw [braced, run_append, run_append, run_opening, run_closing]
  rw [shape] at whole ⊢
  constructor
  · by_contra notOuter
    exact whole ((sunk_opening notOuter).run inner).closing
  · exact (onClose_onClose _).resolve_right whole

/-! What a depth says of the text before it. -/

theorem closing_infix_concat {g : Text} {c : CodePoint} :
    closing <:+: g ++ [c] ↔
      (c = closeBrace ∧ [closeBrace] <:+ g) ∨ closing <:+: g := by
  rw [List.infix_concat_iff, List.suffix_concat_iff]
  refine or_congr_left ⟨?_, ?_⟩
  · rintro (empty | ⟨t, equality, ending⟩)
    · cases empty
    · have parts : [closeBrace] ++ [closeBrace] = t ++ [c] := equality
      obtain ⟨rfl, single⟩ := List.append_inj' parts rfl
      exact ⟨(List.singleton_inj.1 single).symm, ending⟩
  · rintro ⟨rfl, ending⟩
    exact .inr ⟨[closeBrace], rfl, ending⟩

/-- A point that is no closing brace keeps a group from being closed, now and
by the next point. -/
theorem first_concat {g : Text} {c : CodePoint} (other : c ≠ closeBrace)
    (unclosed : ¬ closing <:+: g) :
    ¬ closing <:+: g ++ [c] ++ [closeBrace] := by
  rw [closing_infix_concat, closing_infix_concat]
  rintro (⟨_, t, ending⟩ | ⟨equality, _⟩ | earlier)
  · have same := (List.append_inj' ending rfl).2
    exact other (List.singleton_inj.1 same).symm
  · exact other equality
  · exact unclosed earlier

theorem closing_infix_opening {g : Text} (found : closing <:+: opening ++ g) :
    closing <:+: g := by
  have skip : ∀ s, closing <:+: openBrace :: s → closing <:+: s := by
    intro s found
    rcases List.infix_cons_iff.1 found with ⟨t, leads⟩ | later
    · cases leads
    · exact later
  exact skip _ (skip _ found)

theorem unclosed_of_first {g : Text} {c : CodePoint}
    (first : ¬ closing <:+: g ++ [c]) : ¬ closing <:+: g :=
  fun found => first (closing_infix_concat.2 (.inr found))

def Within : Depth → Prop
  | .inside | .opened | .deep | .broken => True
  | _ => False

theorem within_opening (d : Depth) : d.onOpen.onOpen.Within := by
  cases d <;> trivial

theorem Within.not_outer {d : Depth} (within : d.Within) : ¬ d.Outer := by
  rintro (rfl | rfl) <;> exact within

theorem within_onOpen {d : Depth} (notOuter : ¬ d.Outer) :
    d.onOpen.Within := by
  cases d with
  | outside => exact notOuter (.inl rfl)
  | _ => trivial

theorem within_onOther {d : Depth} (notOuter : ¬ d.Outer) :
    d.onOther.Within := by
  cases d with
  | outside => exact notOuter (.inl rfl)
  | half => exact notOuter (.inr rfl)
  | _ => trivial

theorem Within.onClose {d : Depth} (within : d.Within) : ¬ d.onClose.Outer := by
  rintro (equality | equality) <;> cases d <;> cases equality <;> exact within

/-- A group is not left before its closing. -/
theorem Within.not_left {d : Depth} (within : d.Within) {g : Text}
    (unclosed : ¬ Placeholder.closing <:+: g) :
    ¬ (d.run g).Outer ∧ ((d.run g).Within ∨ [closeBrace] <:+ g) := by
  induction g using List.reverseRecOn with
  | nil => exact ⟨within.not_outer, .inl within⟩
  | append_singleton g c ih =>
      obtain ⟨notOuter, last⟩ := ih (unclosed_of_first unclosed)
      rw [run_append, run_cons, run_nil]
      refine step_cases (d.run g) c (fun _ => ?_) (fun isClose => ?_)
        fun _ _ => ?_
      · have still := within_onOpen notOuter
        exact ⟨still.not_outer, .inl still⟩
      · have before : (d.run g).Within := last.resolve_right fun ending =>
          unclosed (closing_infix_concat.2 (.inl ⟨isClose, ending⟩))
        exact ⟨before.onClose, .inr ⟨g, by rw [isClose]⟩⟩
      · have still := within_onOther notOuter
        exact ⟨still.not_outer, .inl still⟩

/-- Inside a placeholder a text is between groups at most after one brace. -/
theorem run_part {inner u v : Text} (unclosed : closeBrace ∉ inner)
    (parts : braced inner = u ++ v) (front : u ≠ []) (back : v ≠ [])
    {d : Depth} (outer : (d.run u).Outer) : u = [openBrace] := by
  have flat : ¬ closing <:+: inner ++ [closeBrace] := by
    rw [closing_infix_concat]
    rintro (⟨_, ending⟩ | found)
    · exact unclosed (ending.subset (List.mem_singleton_self _))
    · exact unclosed (found.subset (List.mem_cons_self ..))
  have shape : openBrace :: openBrace :: (inner ++ [closeBrace]) =
      u ++ v.dropLast := by
    rw [← List.dropLast_append_of_ne_nil back, ← parts, braced, closing_eq,
      List.dropLast_append_of_ne_nil (List.cons_ne_nil _ _), List.append_assoc]
    rfl
  rcases u with _ | ⟨_, _ | ⟨_, w⟩⟩
  · exact absurd rfl front
  · rw [(List.cons.inj shape).1]
  · simp only [List.cons_append, List.cons.injEq] at shape
    obtain ⟨rfl, rfl, shape⟩ := shape
    have part : ¬ closing <:+: w := fun found =>
      flat (shape ▸ found.trans (List.prefix_append ..).isInfix)
    exact absurd outer ((within_opening d).not_left part).1

/-- A group from behind its opening on, by the depth at its end. -/
inductive Trace : Depth → Text → Prop
  | inside (first : ¬ closing <:+: g ++ [closeBrace]) : Trace inside g
  | opened (unclosed : ¬ closing <:+: g) : Trace opened (g ++ [openBrace])
  | closed (first : ¬ closing <:+: g ++ [closeBrace]) :
      Trace closed (g ++ [closeBrace])
  | deep (holds : opening <:+: g)
      (first : ¬ closing <:+: g ++ [closeBrace]) : Trace deep g
  | deepClosed (holds : opening <:+: g)
      (first : ¬ closing <:+: g ++ [closeBrace]) :
      Trace deepClosed (g ++ [closeBrace])

theorem Trace.unclosed {d : Depth} {g : Text} (trace : Trace d g) :
    ¬ closing <:+: g := by
  cases trace with
  | inside first => exact unclosed_of_first first
  | opened unclosed =>
      exact unclosed_of_first (first_concat (by decide) unclosed)
  | closed first => exact first
  | deep holds first => exact unclosed_of_first first
  | deepClosed holds first => exact first

/-- What is known of a text that is at a depth. -/
inductive Reached : Depth → Text → Prop
  | outside (s : Text) : Reached outside s
  | half (s : Text) : Reached half (s ++ [openBrace])
  | group (before : Text) (trace : Trace d g) :
      Reached d (before ++ opening ++ g)
  | broken (nested : Nested s) : Reached broken s

theorem Reached.group_concat {d : Depth} {g : Text} {c : CodePoint}
    (before : Text) (trace : Trace d (g ++ [c])) :
    Reached d (before ++ opening ++ g ++ [c]) := by
  rw [List.append_assoc]
  exact .group before trace

theorem Trace.step {d : Depth} {g : Text} (trace : Trace d g) (before : Text)
    (c : CodePoint) : Reached (d.step c) (before ++ opening ++ g ++ [c]) := by
  refine step_cases d c (fun isOpen => ?_) (fun isClose => ?_)
    fun _ notClose => ?_
  · subst isOpen
    have first : ¬ closing <:+: g ++ [openBrace] ++ [closeBrace] :=
      first_concat (by decide) trace.unclosed
    refine .group_concat before ?_
    cases trace with
    | inside earlier => exact .opened (unclosed_of_first earlier)
    | opened unclosed =>
        refine .deep ?_ first
        rw [List.append_assoc]
        exact List.infix_append' _ opening []
    | closed earlier => exact .opened earlier
    | deep holds earlier =>
        exact .deep (holds.trans (List.prefix_append ..).isInfix) first
    | deepClosed holds earlier =>
        refine .deep (holds.trans ?_) first
        rw [List.append_assoc]
        exact (List.prefix_append ..).isInfix
  · subst isClose
    cases trace with
    | inside first => exact .group_concat before (.closed first)
    | opened unclosed =>
        exact .group_concat before
          (.closed (first_concat (by decide) unclosed))
    | closed first => exact .outside _
    | deep holds first =>
        exact .group_concat before (.deepClosed holds first)
    | deepClosed holds first =>
        refine .broken ⟨before, _, [], ?_, holds, first⟩
        rw [closing_eq]
        simp only [List.append_assoc, List.singleton_append, List.append_nil]
  · have first : ¬ closing <:+: g ++ [c] ++ [closeBrace] :=
      first_concat notClose trace.unclosed
    refine .group_concat before ?_
    cases trace with
    | inside earlier => exact .inside first
    | opened unclosed => exact .inside first
    | closed earlier => exact .inside first
    | deep holds earlier =>
        exact .deep (holds.trans (List.prefix_append ..).isInfix) first
    | deepClosed holds earlier =>
        refine .deep (holds.trans ?_) first
        rw [List.append_assoc]
        exact (List.prefix_append ..).isInfix

theorem Reached.step {d : Depth} {s : Text} (reached : Reached d s)
    (c : CodePoint) : Reached (d.step c) (s ++ [c]) := by
  cases reached with
  | outside =>
      refine step_cases Depth.outside c (fun isOpen => ?_) (fun _ => .outside _)
        fun _ _ => .outside _
      rw [isOpen]
      exact .half _
  | half s =>
      refine step_cases Depth.half c (fun isOpen => ?_) (fun _ => .outside _)
        fun _ _ => .outside _
      have start : Trace Depth.inside [] :=
        .inside fun found => absurd found.length_le (by decide)
      rw [isOpen, List.append_assoc, List.singleton_append, ← opening_eq,
        ← List.append_nil (s ++ opening)]
      exact .group s start
  | group before trace => exact trace.step before c
  | broken nested =>
      have still : Reached Depth.broken (s ++ [c]) :=
        .broken (nested.append [c])
      exact step_cases Depth.broken c (fun _ => still) (fun _ => still)
        fun _ _ => still

theorem reached_run (s : Text) : Reached (outside.run s) s := by
  induction s using List.reverseRecOn with
  | nil => exact .outside []
  | append_singleton s c ih =>
      rw [run_append]
      exact ih.step c

theorem nested_of_broken {s : Text} (broken : outside.run s = broken) :
    Nested s := by
  have reached := reached_run s
  rw [broken] at reached
  cases reached with
  | group before trace => cases trace
  | broken nested => exact nested

theorem nested_iff {s : Text} : Nested s ↔ outside.run s = broken := by
  refine ⟨?_, nested_of_broken⟩
  rintro ⟨before, group, after, rfl, ⟨x, y, rfl⟩, first⟩
  have unclosed : ¬ closing <:+: x := by
    intro found
    refine unclosed_of_first first (found.trans ?_)
    rw [List.append_assoc]
    exact (List.prefix_append ..).isInfix
  -- Wherever the group begins, it is still open at its second opening.
  have notOuter := ((within_opening (outside.run before)).not_left unclosed).1
  have sunk := ((sunk_opening notOuter).run y).closing
  simp only [run_append, run_opening, run_closing, sunk, run_broken]

instance (s : Text) : Decidable (Nested s) :=
  decidable_of_iff _ nested_iff.symm

theorem ends_of_half {s : Text} (ending : outside.run s = half) :
    ∃ t, s = t ++ [openBrace] := by
  have reached := reached_run s
  rw [ending] at reached
  cases reached with
  | half t => exact ⟨t, rfl⟩
  | group before trace => cases trace

/-- In a group, its closing has not come since its opening. -/
theorem open_of_not_outer {s : Text} (flat : ¬ Nested s)
    (notOuter : ¬ (outside.run s).Outer) :
    ∃ before g, s = before ++ opening ++ g ∧ ¬ closing <:+: g := by
  generalize depth : outside.run s = d at notOuter
  have reached := reached_run s
  rw [depth] at reached
  cases reached with
  | outside => exact absurd (.inl rfl) notOuter
  | half => exact absurd (.inr rfl) notOuter
  | group before trace => exact ⟨before, _, rfl, trace.unclosed⟩
  | broken nested => exact absurd nested flat

end Depth

end Placeholder

end Breadboard
