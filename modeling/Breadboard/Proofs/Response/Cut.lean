import Breadboard.Proofs.Response.Braces

/-! Where a text may be cut in two without a change of what its placeholders
become: where no placeholder lies across the cut, now and after every pass. -/

namespace Breadboard

namespace Placeholder

open Depth

variable {stands : Text → Option Text → Prop} {at? : Text.Recogniser}

/-! One pass. -/

theorem ne_broken_of_append {d : Depth} {s t : Text}
    (whole : d.run (s ++ t) ≠ broken) : d.run s ≠ broken := by
  intro lost
  rw [run_append, lost, run_broken] at whole
  exact whole rfl

/-! What comes of a pass, if anything does. -/

theorem replaceBy?_nil : Text.replaceBy? at? [] = some [] := by
  rw [Text.replaceBy?]

theorem replaceBy?_cons_eq_some {c : CodePoint} {s t : Text}
    (missed : at? (c :: s) = none)
    (passed : Text.replaceBy? at? (c :: s) = some t) :
    ∃ later, Text.replaceBy? at? s = some later ∧ t = c :: later := by
  rw [replaceBy?_cons missed] at passed
  obtain ⟨later, rest, same⟩ := Option.map_eq_some_iff.1 passed
  exact ⟨later, rest, same.symm⟩

theorem Slot.replaceBy?_braced_eq_some (slot : Slot stands at?)
    {inner rest t : Text} {out : Option Text} (known : stands inner out)
    (passed : Text.replaceBy? at? (braced inner ++ rest) = some t) :
    ∃ value later, stands inner (some value) ∧ Plain value ∧
      Text.replaceBy? at? rest = some later ∧ t = value ++ later := by
  rw [slot.replaceBy?_braced known] at passed
  obtain ⟨value, later, own, rest, same⟩ := Option.map₂_eq_some_iff.1 passed
  obtain rfl : out = some value := own
  exact ⟨value, later, known, slot.plain known, rest, same.symm⟩

theorem Slot.run_replaceBy? (slot : Slot stands at?) {d : Depth} {s t : Text}
    (passed : Text.replaceBy? at? s = some t) (whole : d.run s ≠ broken) :
    d.run t = d.run s := by
  induction s using slot.induction generalizing d t with
  | nil =>
      rw [replaceBy?_nil] at passed
      cases passed
      rfl
  | cons c s missed ih =>
      obtain ⟨later, rest, rfl⟩ := replaceBy?_cons_eq_some missed passed
      exact ih rest whole
  | braced inner out rest known ih =>
      obtain ⟨value, later, _, plain, after, rfl⟩ :=
        slot.replaceBy?_braced_eq_some known passed
      obtain ⟨outer, sealing⟩ :=
        run_braced_of_ne (ne_broken_of_append whole)
      rw [run_append, sealing] at whole
      rw [run_append, run_append, sealing, run_plain outer plain,
        ih after whole]

theorem Occurs.widen {s t : Text} (occurs : Occurs s) (part : s <:+: t) :
    Occurs t := by
  obtain ⟨inner, form, found⟩ := occurs
  exact ⟨inner, form, found.trans part⟩

theorem Slot.replaceBy?_of_free (slot : Slot stands at?) {s : Text}
    (free : ¬ Occurs s) : Text.replaceBy? at? s = some s := by
  induction s using slot.induction with
  | nil => exact replaceBy?_nil
  | cons c s missed ih =>
      have rest : ¬ Occurs s := fun occurs =>
        free (occurs.widen (List.suffix_cons c s).isInfix)
      rw [replaceBy?_cons missed, ih rest, Option.map_some]
  | braced inner out rest known _ =>
      exact absurd ⟨inner, slot.form known, [], rest, rfl⟩ free

theorem not_occurs_of_unclosed {s : Text} (unclosed : ¬ closing <:+: s) :
    ¬ Occurs s := by
  rintro ⟨inner, _, found⟩
  have ending : closing <:+: braced inner :=
    (List.suffix_append ..).isInfix
  exact unclosed (ending.trans found)

/-- A placeholder lies across the border of two texts. -/
def Crosses (a b : Text) : Prop :=
  ∃ inner u v, Form inner ∧ braced inner = u ++ v ∧ u ≠ [] ∧ v ≠ [] ∧
    u <:+ a ∧ v <+: b

theorem Slot.replaceBy?_append (slot : Slot stands at?) {a b : Text}
    (apart : ¬ Crosses a b) :
    Text.replaceBy? at? (a ++ b) =
      joined? (Text.replaceBy? at? a) (Text.replaceBy? at? b) := by
  have later : ∀ front rest : Text, ¬ Crosses (front ++ rest) b →
      ¬ Crosses rest b := by
    rintro front rest apart ⟨inner, u, v, form, parts, left, right, ending, lead⟩
    exact apart ⟨inner, u, v, form, parts, left, right,
      ending.trans (List.suffix_append ..), lead⟩
  induction a using slot.induction with
  | nil =>
      rw [replaceBy?_nil, List.nil_append]
      cases Text.replaceBy? at? b <;> rfl
  | cons c a missed ih =>
      have missedBoth : at? (c :: (a ++ b)) = none := by
        rw [Option.eq_none_iff_forall_ne_some]
        rintro ⟨out, taken⟩ found
        obtain ⟨inner, rest, equality, known, rfl⟩ := slot.found found
        have miss : ∀ more, c :: a ≠ braced inner ++ more := by
          intro more shape
          rw [shape, slot.finds known] at missed
          cases missed
        have parts : (c :: a) ++ b = braced inner ++ rest := equality
        rcases List.append_eq_append_iff.1 parts with
          ⟨more, shape, rfl⟩ | ⟨more, shape, _⟩
        · refine apart ⟨inner, c :: a, more, slot.form known, shape,
            List.cons_ne_nil _ _, ?_, List.suffix_rfl, List.prefix_append ..⟩
          rintro rfl
          exact miss [] (by rw [shape, List.append_nil, List.append_nil])
        · exact miss more shape
      rw [replaceBy?_cons missed, List.cons_append, replaceBy?_cons missedBoth,
        ih (later [c] a apart), Option.map_map₂_distrib_left]
      exact fun _ _ => List.cons_append.symm
  | braced inner out rest known ih =>
      rw [List.append_assoc, slot.replaceBy?_braced known,
        slot.replaceBy?_braced known, ih (later _ rest apart)]
      exact (Option.map₂_assoc List.append_assoc).symm

/-! Cuts that no placeholder crosses and that a pass keeps. -/

/-- Why a text may be cut between two parts: the first ends outside of groups;
the second begins a group that nothing closes; or the first ends with one
brace, and the second does not make it a pair. -/
inductive Cut (a b : Text) : Prop
  | sealing (outer : outside.run a = outside)
  | unclosed (leads : b.head? = some openBrace) (unclosed : ¬ closing <:+: b)
  | late (ending : outside.run a = half) (whole : half.run b ≠ broken)
      (pair : ∀ t, b = openBrace :: t → t.head? = some openBrace)

theorem eq_of_suffix_closing {v : Text} {c : CodePoint}
    (ending : v <:+ closing) (leads : v.head? = some c) : c = closeBrace := by
  have member : c ∈ closing := ending.subset (List.mem_of_head? leads)
  simpa [closing_eq] using member

theorem Cut.apart {a b : Text} (cut : Cut a b) : ¬ Crosses a b := by
  rintro ⟨inner, u, v, form, parts, front, back, ⟨x, rfl⟩, ⟨y, rfl⟩⟩
  have single : (outside.run (x ++ u)).Outer → u = [openBrace] := by
    intro outer
    rw [run_append] at outer
    exact run_part form.unclosed parts front back outer
  cases cut with
  | sealing outer =>
      have shape := single (.inl outer)
      rw [shape, run_append, run_cons, run_nil, step_openBrace] at outer
      exact onOpen_ne_outside _ outer
  | unclosed leads unclosed =>
      have lead : v.head? = some openBrace := by
        cases v with
        | nil => exact absurd rfl back
        | cons c v => exact leads
      rw [braced] at parts
      rcases List.append_eq_append_iff.1 parts with
        ⟨more, _, shape⟩ | ⟨more, _, shape⟩
      · have ending : v <:+ closing := ⟨more, shape.symm⟩
        exact absurd (eq_of_suffix_closing ending lead) (by decide)
      · refine unclosed (List.IsInfix.trans ?_ (List.prefix_append v y).isInfix)
        rw [shape]
        exact (List.suffix_append ..).isInfix
  | late ending whole pair =>
      obtain rfl := single (.inr ending)
      have shape : v = openBrace :: (inner ++ closing) := by
        rw [← List.append_nil (braced inner), braced_eq_cons] at parts
        simpa using (List.cons.inj parts).2.symm
      have next := pair (inner ++ closing ++ y) (by rw [shape]; rfl)
      cases inner with
      | nil =>
          have equality : some closeBrace = some openBrace := next
          exact absurd equality (by decide)
      | cons c inner => exact form.head next

theorem Slot.pair_replaceBy? (slot : Slot stands at?) {b : Text}
    (whole : half.run b ≠ broken)
    (pair : ∀ t, b = openBrace :: t → t.head? = some openBrace) :
    ∀ t, Text.replaceBy? at? b = some (openBrace :: t) →
      t.head? = some openBrace := by
  induction b using slot.induction with
  | nil =>
      intro t passed
      rw [replaceBy?_nil] at passed
      cases passed
  | cons c s missed _ =>
      intro t passed
      obtain ⟨later, rest, equality⟩ := replaceBy?_cons_eq_some missed passed
      obtain ⟨rfl, rfl⟩ := List.cons.inj equality
      have next := pair s rfl
      clear missed pair passed equality
      induction s using slot.induction with
      | nil => cases next
      | cons e s missed _ =>
          obtain ⟨later, _, rfl⟩ := replaceBy?_cons_eq_some missed rest
          exact next
      | braced inner out rest known _ =>
          -- Behind two braces a placeholder would be nested.
          rw [run_cons, step_openBrace] at whole
          have outer := (run_braced_of_ne (ne_broken_of_append whole)).1
          rcases outer with impossible | impossible <;> cases impossible
  | braced inner out rest known _ =>
      intro t passed
      obtain ⟨value, later, _, plain, _, equality⟩ :=
        slot.replaceBy?_braced_eq_some known passed
      cases value with
      | nil => exact absurd rfl plain.nonempty
      | cons e value =>
          obtain ⟨rfl, _⟩ := List.cons.inj equality
          exact absurd rfl (plain.harmless _ (List.mem_cons_self ..)).2.1

theorem Cut.replaceBy? (slot : Slot stands at?) {a b a' b' : Text}
    (cut : Cut a b) (front : Text.replaceBy? at? a = some a')
    (back : Text.replaceBy? at? b = some b') : Cut a' b' := by
  cases cut with
  | sealing outer =>
      refine .sealing ?_
      rw [slot.run_replaceBy? front (by rw [outer]; decide), outer]
  | unclosed leads unclosed =>
      rw [slot.replaceBy?_of_free (not_occurs_of_unclosed unclosed)] at back
      cases back
      exact .unclosed leads unclosed
  | late ending whole pair =>
      refine .late ?_ ?_ ?_
      · rw [slot.run_replaceBy? front (by rw [ending]; decide), ending]
      · rwa [slot.run_replaceBy? back whole]
      · rintro t rfl
        exact slot.pair_replaceBy? whole pair t back

/-! All passes. -/

theorem pass?_cons (at? : Text.Recogniser) (kinds : List Text.Recogniser) (s : Text) :
    pass? (at? :: kinds) s = (Text.replaceBy? at? s).bind (pass? kinds) :=
  List.foldlM_cons ..

theorem pass?_append {kinds : List Text.Recogniser}
    (slots : ∀ at? ∈ kinds, ∃ stands, Slot stands at?) {a b : Text}
    (cut : Cut a b) : pass? kinds (a ++ b) = joined? (pass? kinds a) (pass? kinds b) := by
  induction kinds generalizing a b with
  | nil => rfl
  | cons at? kinds ih =>
      obtain ⟨stands, slot⟩ := slots at? (List.mem_cons_self ..)
      rw [pass?_cons, pass?_cons, pass?_cons, slot.replaceBy?_append cut.apart]
      cases front : Text.replaceBy? at? a with
      | none => rfl
      | some a' =>
          cases back : Text.replaceBy? at? b with
          | none => exact (Option.map₂_none_right _ _).symm
          | some b' =>
              exact ih (fun at? member => slots at? (List.mem_cons_of_mem _ member))
                (cut.replaceBy? slot front back)

theorem pass?_induction {kinds : List Text.Recogniser}
    (slots : ∀ at? ∈ kinds, ∃ stands, Slot stands at?) {motive : Text → Prop}
    {s t : Text} (passed : pass? kinds s = some t) (start : motive s)
    (pass : ∀ {stands at?}, Slot stands at? → ∀ {s t}, motive s →
      Text.replaceBy? at? s = some t → motive t) : motive t := by
  induction kinds generalizing s with
  | nil =>
      cases passed
      exact start
  | cons at? kinds ih =>
      obtain ⟨stands, slot⟩ := slots at? (List.mem_cons_self ..)
      rw [pass?_cons] at passed
      obtain ⟨next, first, rest⟩ := Option.bind_eq_some_iff.1 passed
      exact ih (fun at? member => slots at? (List.mem_cons_of_mem _ member)) rest
        (pass slot start first)

theorem pass?_of_free {kinds : List Text.Recogniser}
    (slots : ∀ at? ∈ kinds, ∃ stands, Slot stands at?) {s : Text}
    (free : ¬ Occurs s) : pass? kinds s = some s := by
  induction kinds with
  | nil => rfl
  | cons at? kinds ih =>
      obtain ⟨stands, slot⟩ := slots at? (List.mem_cons_self ..)
      rw [pass?_cons, slot.replaceBy?_of_free free, Option.bind_some]
      exact ih fun at? member => slots at? (List.mem_cons_of_mem _ member)

theorem resolve?_append (board : Board) {a b : Text} (cut : Cut a b) :
    resolve? board (a ++ b) = joined? (resolve? board a) (resolve? board b) :=
  pass?_append (fun _ member => slot_of_mem_kinds member) cut

theorem resolve?_induction {motive : Text → Prop} {board : Board} {s t : Text}
    (resolved : resolve? board s = some t) (start : motive s)
    (pass : ∀ {stands at?}, Slot stands at? → ∀ {s t}, motive s →
      Text.replaceBy? at? s = some t → motive t) : motive t :=
  pass?_induction (fun _ member => slot_of_mem_kinds member) resolved start pass

theorem resolve?_of_free (board : Board) {s : Text} (free : ¬ Occurs s) :
    resolve? board s = some s :=
  pass?_of_free (fun _ member => slot_of_mem_kinds member) free

theorem resolve?_nil (board : Board) : resolve? board [] = some [] := by
  apply resolve?_of_free
  rintro ⟨inner, _, found⟩
  exact absurd (List.eq_nil_of_infix_nil found) (List.cons_ne_nil _ _)

/-! Where a text is cut before what may go on. -/

theorem eq_append_of_lastOpening? {s before rest : Text}
    (found : lastOpening? s = some (before, rest)) :
    s = before ++ rest ∧ ∃ more, rest = opening ++ more := by
  induction s generalizing before with
  | nil => cases found
  | cons c s ih =>
      rw [lastOpening?] at found
      split at found
      · next later _ equality =>
          cases found
          obtain ⟨shape, leads⟩ := ih equality
          exact ⟨by rw [shape, List.cons_append], leads⟩
      · split at found
        · next leads =>
            cases found
            exact ⟨rfl, Text.startsWith_iff.1 leads⟩
        · cases found

theorem lastOpening?_append (before g : Text) :
    ∃ front rest, lastOpening? (before ++ opening ++ g) = some (front, rest) ∧
      rest <:+ opening ++ g := by
  induction before with
  | nil =>
      cases later : lastOpening? (openBrace :: g) with
      | none =>
          refine ⟨[], opening ++ g, ?_, List.suffix_rfl⟩
          have leads : Text.startsWith (openBrace :: openBrace :: g) opening =
              true := Text.startsWith_iff.2 ⟨g, rfl⟩
          rw [List.nil_append, opening_eq]
          simp only [List.cons_append, List.nil_append]
          rw [lastOpening?, later]
          simp only [leads, if_true]
      | some parts =>
          obtain ⟨front, rest⟩ := parts
          obtain ⟨shape, _⟩ := eq_append_of_lastOpening? later
          refine ⟨openBrace :: front, rest, ?_, [openBrace] ++ front, ?_⟩
          · rw [List.nil_append, opening_eq]
            simp only [List.cons_append, List.nil_append]
            rw [lastOpening?, later]
          · rw [List.append_assoc, ← shape]
            rfl
  | cons c before ih =>
      obtain ⟨front, rest, found, ending⟩ := ih
      refine ⟨c :: front, rest, ?_, ending⟩
      rw [List.cons_append, List.cons_append, lastOpening?, found]

/-- The last opening of a text, if there is one, is followed by a closing. -/
def LastClosed (s : Text) : Prop :=
  ∀ before rest, lastOpening? s = some (before, rest) → closing <:+: rest

/-- The ways in which a text is cut: before its last opening, where that is not
closed; else before a brace at its end; else not at all. -/
inductive Split : Text → Text × Text → Prop
  | group (before rest : Text) (found : lastOpening? s = some (before, rest))
      (unclosed : ¬ closing <:+: rest) : Split s (before, rest)
  | brace (t : Text) (closed : LastClosed (t ++ [openBrace])) :
      Split (t ++ [openBrace]) (t, [openBrace])
  | whole (closed : LastClosed s) (ending : ∀ t, s ≠ t ++ [openBrace]) :
      Split s (s, [])

theorem split_byBrace {s : Text} (closed : LastClosed s) :
    Split s (if s.endsWith (text "\x7b") then (s.dropLast, text "\x7b")
      else (s, [])) := by
  split
  · next ends =>
      obtain ⟨t, rfl⟩ := Text.endsWith_iff.1 ends
      have dropped : (t ++ text "\x7b").dropLast = t := List.dropLast_concat
      rw [dropped]
      exact .brace t closed
  · next ends =>
      refine .whole closed ?_
      rintro t rfl
      exact ends (Text.endsWith_iff.2 ⟨t, rfl⟩)

theorem split_splitOpen (s : Text) : Split s (splitOpen s) := by
  rw [splitOpen]
  split
  · next before rest found =>
      split
      · next closes =>
          refine split_byBrace fun front tail other => ?_
          rw [found] at other
          cases other
          exact Text.contains_iff.1 closes
      · next closes =>
          exact .group before rest found fun closed =>
            closes (Text.contains_iff.2 closed)
  · next missing =>
      refine split_byBrace fun front tail other => ?_
      rw [missing] at other
      cases other

theorem Split.append {s : Text} {parts : Text × Text} (split : Split s parts) :
    s = parts.1 ++ parts.2 := by
  cases split with
  | group before rest found => exact (eq_append_of_lastOpening? found).1
  | brace => rfl
  | whole => exact (List.append_nil s).symm

theorem outer_of_closed {s : Text} (flat : ¬ Nested s)
    (closed : LastClosed s) : (outside.run s).Outer := by
  by_contra notOuter
  obtain ⟨before, g, rfl, unclosed⟩ := open_of_not_outer flat notOuter
  obtain ⟨front, rest, found, ending⟩ := lastOpening?_append before g
  exact unclosed (closing_infix_opening
    ((closed front rest found).trans ending.isInfix))

theorem Split.cut {s later : Text} {parts : Text × Text}
    (split : Split s parts) (flat : ¬ Nested (s ++ later)) :
    Cut parts.1 (parts.2 ++ later) := by
  have front : ¬ Nested s := fun nested => flat (nested.append later)
  cases split with
  | group before rest found unclosed =>
      obtain ⟨rfl, more, rfl⟩ := eq_append_of_lastOpening? found
      have whole : (outside.run before).run (opening ++ more ++ later) ≠
          broken := by
        rw [← run_append, ← List.append_assoc]
        exact fun lost => flat (nested_of_broken lost)
      -- An opening inside of a group is one that nothing may close.
      by_cases outer : (outside.run before).Outer
      · rcases outer with outer | ending
        · exact .sealing outer
        · rw [ending] at whole
          refine .late ending whole ?_
          intro t equality
          obtain ⟨_, rfl⟩ := List.cons.inj equality
          rfl
      · refine .unclosed rfl fun closed => whole ?_
        rw [List.append_assoc] at closed ⊢
        rw [run_append, run_opening]
        exact (sunk_opening outer).run_of_closing (closing_infix_opening closed)
  | brace t closed =>
      have outer := outer_of_closed front closed
      refine .sealing ?_
      rw [run_append, run_cons, run_nil, step_openBrace] at outer
      exact eq_outside_of_onOpen outer
  | whole closed ending =>
      rcases outer_of_closed front closed with outer | halved
      · exact .sealing outer
      · obtain ⟨t, shape⟩ := ends_of_half halved
        exact absurd shape (ending t)

/-- A property of whole texts by which what is sent and what is held back are
resolved apart. -/
structure Seamless (board : Board) (P : Text → Prop) : Prop where
  suffix : ∀ {a b}, P (a ++ b) → P b
  resolve? : ∀ {s later}, P (s ++ later) →
    resolve? board (s ++ later) =
      joined? (resolve? board (splitOpen s).1)
        (resolve? board ((splitOpen s).2 ++ later))

theorem seamless_flat (board : Board) :
    Seamless board fun s => ¬ Nested s where
  suffix := fun flat nested => flat (nested.prepend _)
  resolve? := by
    intro s later flat
    have split := split_splitOpen s
    rw [← resolve?_append board (split.cut flat), ← List.append_assoc,
      ← split.append]

theorem seamless_free (board : Board) :
    Seamless board fun s => ¬ Occurs s where
  suffix := fun free occurs =>
    free (occurs.widen (List.suffix_append ..).isInfix)
  resolve? := by
    intro s later free
    have whole : s ++ later = (splitOpen s).1 ++ ((splitOpen s).2 ++ later) := by
      rw [← List.append_assoc, ← (split_splitOpen s).append]
    rw [resolve?_of_free board free, whole]
    rw [whole] at free
    rw [resolve?_of_free board fun occurs =>
        free (occurs.widen (List.prefix_append ..).isInfix),
      resolve?_of_free board fun occurs =>
        free (occurs.widen (List.suffix_append ..).isInfix)]
    rfl

end Placeholder

end Breadboard
