import Breadboard.Proofs.Reply.NetLine

/-! Tables that are drawn more than once. A table that begins with a header is
read in the same way whatever stands before it, and its rows are redraws once
their indices have been passed: what another copy of it brings are faults that
the first one had. -/

namespace Breadboard

namespace NetTable

/-! One line. -/

section Line

variable {colored : Bool} {last later : Int} {line : Text} {net : Net}

/-- After a later index, a line comes to what it came to or is a redraw. -/
theorem readLine_later (colored : Bool) (line : Text) (le : last ≤ later) :
    readLine colored later line = readLine colored last line ∨
      readLine colored later line = .redraw := by
  cases entry line with
  | faulty cause reads => exact .inl ((reads colored later).trans (reads colored last).symm)
  | endless endless =>
      exact .inl (by rw [readLine_endless endless, readLine_endless endless])
  | numbered index name rest indexed =>
      rw [indexed.readLine, indexed.readLine]
      by_cases passed : index ≤ later
      · exact .inr (if_pos passed)
      · have ahead : ¬ index ≤ last := fun before => passed (Int.le_trans before le)
        rw [if_neg passed, if_neg ahead]
        exact .inl rfl

theorem readLine_net (read : readLine colored last line = .net net) :
    last < net.index ∧
      ∀ later, net.index ≤ later → readLine colored later line = .redraw := by
  have came := verdict colored last line
  rw [read] at came
  cases came with
  | net indexed above made =>
      exact ⟨above, fun later passed => by rw [indexed.readLine, if_pos passed]⟩

end Line

/-! All lines. -/

/-- How lines are read, from one layout and last index to another: what each of
them adds to the nets and the faults. -/
inductive Reading : Bool → Int → List Text → List Net → List Fault → Bool → Int → Prop
  | nil (colored : Bool) (last : Int) : Reading colored last [] [] [] colored last
  | blank {lines : List Text} (void : line.trim.isEmpty = true)
      (rest : Reading colored last lines nets faults colored' last') :
      Reading colored last (line :: lines) nets faults colored' last'
  | head {lines : List Text} (given : ¬ line.trim.isEmpty = true)
      (leads : line.trim.startsWith header = true)
      (rest : Reading (line.trim.contains (text "Color")) last lines nets faults
        colored' last') :
      Reading colored last (line :: lines) nets faults colored' last'
  | redraw {lines : List Text} (given : ¬ line.trim.isEmpty = true)
      (plain : ¬ line.trim.startsWith header = true)
      (read : readLine colored last line.trim = .redraw)
      (rest : Reading colored last lines nets faults colored' last') :
      Reading colored last (line :: lines) nets faults colored' last'
  | fault {lines : List Text} (given : ¬ line.trim.isEmpty = true)
      (plain : ¬ line.trim.startsWith header = true)
      (read : readLine colored last line.trim = .fault cause)
      (rest : Reading colored last lines nets faults colored' last') :
      Reading colored last (line :: lines) nets (⟨line.trim, cause⟩ :: faults) colored' last'
  | net {lines : List Text} (given : ¬ line.trim.isEmpty = true)
      (plain : ¬ line.trim.startsWith header = true)
      (read : readLine colored last line.trim = .net net)
      (rest : Reading colored net.index lines nets faults colored' last') :
      Reading colored last (line :: lines) (net :: nets) faults colored' last'

/-- The first line that is not blank is a header. -/
def Headed (lines : List Text) : Prop :=
  ∃ line, (lines.map Text.trim).find? (!·.isEmpty) = some line ∧
    line.startsWith header = true

variable {colored colored' colored'' other : Bool} {last last' last'' later : Int}
  {line : Text} {lines more : List Text} {nets nets' : List Net}
  {faults faults' : List Fault}

theorem Reading.reads (reading : Reading colored last lines nets faults colored' last') :
    readLines colored last lines = some (nets, faults) := by
  induction reading with
  | nil => rfl
  | blank void rest ih => simp only [readLines, if_pos void, ih]
  | head given leads rest ih => simp only [readLines, if_neg given, if_pos leads, ih]
  | redraw given plain read rest ih
  | fault given plain read rest ih
  | net given plain read rest ih =>
      simp only [readLines, if_neg given, if_neg plain, read, ih, Option.map_some]

theorem exists_reading (read : readLines colored last lines = some (nets, faults)) :
    ∃ colored' last', Reading colored last lines nets faults colored' last' := by
  induction lines generalizing colored last nets faults with
  | nil =>
      cases read
      exact ⟨colored, last, .nil colored last⟩
  | cons line lines ih =>
      rw [readLines] at read
      dsimp only at read
      split at read
      · next void =>
          obtain ⟨colored', last', rest⟩ := ih read
          exact ⟨colored', last', .blank void rest⟩
      · next given =>
          split at read
          · next leads =>
              obtain ⟨colored', last', rest⟩ := ih read
              exact ⟨colored', last', .head given leads rest⟩
          · next plain =>
              split at read
              · cases read
              · next same =>
                  obtain ⟨colored', last', rest⟩ := ih read
                  exact ⟨colored', last', .redraw given plain same rest⟩
              · next same =>
                  obtain ⟨⟨_, _⟩, others, made⟩ := Option.map_eq_some_iff.1 read
                  cases made
                  obtain ⟨colored', last', rest⟩ := ih others
                  exact ⟨colored', last', .fault given plain same rest⟩
              · next same =>
                  obtain ⟨⟨_, _⟩, others, made⟩ := Option.map_eq_some_iff.1 read
                  cases made
                  obtain ⟨colored', last', rest⟩ := ih others
                  exact ⟨colored', last', .net given plain same rest⟩

/-- Lines that end the reading end it whatever follows them. -/
theorem readLines_append_none (ended : readLines colored last lines = none)
    (more : List Text) : readLines colored last (lines ++ more) = none := by
  induction lines generalizing colored last with
  | nil => cases ended
  | cons line lines ih =>
      rw [readLines] at ended
      rw [List.cons_append, readLines]
      dsimp only at ended ⊢
      split at ended
      · next void => rw [if_pos void, ih ended]
      · next given =>
          rw [if_neg given]
          split at ended
          · next leads => rw [if_pos leads, ih ended]
          · next plain =>
              rw [if_neg plain]
              split at ended
              · rfl
              · exact ih ended
              · rw [ih (Option.map_eq_none_iff.1 ended), Option.map_none]
              · rw [ih (Option.map_eq_none_iff.1 ended), Option.map_none]

theorem Reading.append (reading : Reading colored last lines nets faults colored' last')
    (next : Reading colored' last' more nets' faults' colored'' last'') :
    Reading colored last (lines ++ more) (nets ++ nets') (faults ++ faults')
      colored'' last'' := by
  induction reading with
  | nil => exact next
  | blank void rest ih => exact .blank void (ih next)
  | head given leads rest ih => exact .head given leads (ih next)
  | redraw given plain read rest ih => exact .redraw given plain read (ih next)
  | fault given plain read rest ih => exact .fault given plain read (ih next)
  | net given plain read rest ih => exact .net given plain read (ih next)

theorem Reading.le (reading : Reading colored last lines nets faults colored' last') :
    last ≤ last' := by
  induction reading with
  | nil => exact Int.le_refl _
  | blank void rest ih => exact ih
  | head given leads rest ih => exact ih
  | redraw given plain read rest ih => exact ih
  | fault given plain read rest ih => exact ih
  | net given plain read rest ih => exact Int.le_trans (Int.le_of_lt (readLine_net read).1) ih

/-- After the last index of their nets, lines bring no net and no new fault. -/
theorem Reading.again (reading : Reading colored last lines nets faults colored' last')
    (le : last' ≤ later) :
    ∃ again : List Fault, again.Sublist faults ∧
      Reading colored later lines [] again colored' later := by
  induction reading with
  | nil colored last => exact ⟨[], .slnil, .nil colored later⟩
  | blank void rest ih =>
      obtain ⟨again, among, next⟩ := ih le
      exact ⟨again, among, .blank void next⟩
  | head given leads rest ih =>
      obtain ⟨again, among, next⟩ := ih le
      exact ⟨again, among, .head given leads next⟩
  | redraw given plain read rest ih =>
      obtain ⟨again, among, next⟩ := ih le
      have same : _ = Outcome.redraw :=
        (readLine_later _ _ (Int.le_trans rest.le le)).elim (·.trans read) id
      exact ⟨again, among, .redraw given plain same next⟩
  | fault given plain read rest ih =>
      obtain ⟨again, among, next⟩ := ih le
      rcases readLine_later _ _ (Int.le_trans rest.le le) with same | passed
      · exact ⟨_ :: again, among.cons_cons _, .fault given plain (same.trans read) next⟩
      · exact ⟨again, among.cons _, .redraw given plain passed next⟩
  | net given plain read rest ih =>
      obtain ⟨again, among, next⟩ := ih le
      have passed := (readLine_net read).2 later (Int.le_trans rest.le le)
      exact ⟨again, among, .redraw given plain passed next⟩

theorem Reading.repeated
    (again : Reading colored last lines [] faults colored last) (copies : Nat) :
    Reading colored last (List.replicate copies lines).flatten []
      (List.replicate copies faults).flatten colored last := by
  induction copies with
  | zero => exact .nil colored last
  | succ copies ih =>
      rw [List.replicate_succ, List.replicate_succ, List.flatten_cons, List.flatten_cons]
      exact again.append ih

/-! Headers. -/

theorem headed_cons : Headed (line :: lines) ↔
    if line.trim.isEmpty then Headed lines else line.trim.startsWith header = true := by
  unfold Headed
  rw [List.map_cons, List.find?_cons]
  cases line.trim.isEmpty <;> simp

/-- What stands before a header does not matter. -/
theorem Reading.anew (reading : Reading colored last lines nets faults colored' last')
    (headed : Headed lines) (other : Bool) :
    Reading other last lines nets faults colored' last' := by
  induction reading with
  | nil =>
      obtain ⟨_, found, _⟩ := headed
      cases found
  | blank void rest ih =>
      rw [headed_cons, if_pos void] at headed
      exact .blank void (ih headed)
  | head given leads rest ih => exact .head given leads rest
  | redraw given plain read rest ih
  | fault given plain read rest ih
  | net given plain read rest ih =>
      rw [headed_cons, if_neg given] at headed
      exact absurd headed plain

/-! Copies. -/

/-- A table drawn this many times, each copy on lines of its own. -/
def drawn (copies : Nat) (table : Text) : Text :=
  Text.joinWith (text "\n") (List.replicate copies table)

theorem splitAt_drawn (copies : Nat) (table : Text) :
    Text.splitAt (.char '\n') (drawn (copies + 1) table) =
      (List.replicate (copies + 1) (Text.splitAt (.char '\n') table)).flatten := by
  have lines := Text.splitAt_joinWith_flatMap (.char '\n')
    (List.cons_ne_nil table (List.replicate copies table))
  rw [← List.replicate_succ, List.flatMap_def, List.map_replicate] at lines
  exact lines

/-- What copies of a table are read as: its nets, and after its faults those
among them that every other copy repeats. -/
theorem read_copies {table : Text} (headed : Headed (Text.splitAt (.char '\n') table))
    (read : read? table = some (nets, faults)) :
    ∃ again : List Fault, again.Sublist faults ∧ ∀ copies,
      read? (drawn (copies + 1) table) =
        some (nets, faults ++ (List.replicate copies again).flatten) := by
  obtain ⟨colored', last', first⟩ := exists_reading read
  obtain ⟨again, among, other⟩ := first.again (Int.le_refl last')
  refine ⟨again, among, fun copies => ?_⟩
  have all := first.append ((other.anew headed colored').repeated copies)
  rw [read?, splitAt_drawn, List.replicate_succ, List.flatten_cons, all.reads,
    List.append_nil]

theorem read_copies_none {table : Text} (ended : read? table = none) (copies : Nat) :
    read? (drawn (copies + 1) table) = none := by
  rw [read?, splitAt_drawn, List.replicate_succ, List.flatten_cons]
  exact readLines_append_none ended _

/-- Redraws of a table that begins with a header add nothing: the nets stay the
same, and where there were no faults there are none. -/
theorem read_drawn {table : Text} (headed : Headed (Text.splitAt (.char '\n') table))
    {copies : Nat} (given : 1 ≤ copies) :
    (read? (drawn copies table)).map Prod.fst = (read? table).map Prod.fst ∧
      ∀ nets, read? table = some (nets, []) →
        read? (drawn copies table) = some (nets, []) := by
  obtain ⟨others, rfl⟩ : ∃ others, copies = others + 1 := ⟨copies - 1, by omega⟩
  constructor
  · cases read : read? table with
    | none => rw [read_copies_none read]
    | some found =>
        obtain ⟨again, among, all⟩ := read_copies headed read
        rw [all others]
        rfl
  · intro nets read
    obtain ⟨again, among, all⟩ := read_copies headed read
    obtain rfl := List.sublist_nil.1 among
    rw [all others, List.nil_append, List.flatten_replicate_nil]

def untidy : Text :=
  text " \n Index\n1\tA\t0 V\n5\tB\t3 X\n5\tB\t3 V\nno row\n3\tC\t1 V\nIndex\tColor\n5\tB\tred
7\tD\t* red\nx\tE\tred\nIndex\n9\tF\t1 V"

/-- Rows that the layout makes nothing of, each after its index was passed. -/
def hushed : Text :=
  text "\nIndex\tColor\n4\tA\tred   GP_1\n2\tB\tmauve\nIndex\n4\tC\t3 X\n6\tD\t1 V   7"

def hushedNets : List Net := [
  ⟨4, text "A", .color (text "red") none, [text "GP_1"]⟩,
  ⟨6, text "D", .voltage (text "1V"), [text "7"]⟩]

theorem untidy_redrawn :
    ((read? untidy).map fun (nets, faults) => (nets.map Net.index, faults.length)) =
        some ([1, 5, 7, 9], 3) ∧
      (read? (drawn 3 untidy)).map Prod.fst = (read? untidy).map Prod.fst ∧
      read? hushed = some (hushedNets, []) ∧
      read? (drawn 3 hushed) = some (hushedNets, []) :=
  have headed : Headed (Text.splitAt (.char '\n') untidy) :=
    ⟨text "Index", by decide +kernel, by decide⟩
  have colored : Headed (Text.splitAt (.char '\n') hushed) :=
    ⟨text "Index\tColor", by decide +kernel, by decide⟩
  have read : read? hushed = some (hushedNets, []) := by decide +kernel
  ⟨by decide +kernel, (read_drawn headed (by decide)).1, read,
    (read_drawn colored (by decide)).2 hushedNets read⟩

end NetTable

end Breadboard
