import Breadboard.Proofs.Reply.NetLine
import Breadboard.Proofs.Text.Trim

/-! The nets of any table are sound, and every line that is neither blank nor a
header is accounted for: it is a net, or a fault, or it is dropped for an index
that does not rise. Only an index of too many digits ends a reading. -/

namespace Breadboard

/-- A net as a table tells it: its index is positive and has 32 bits, a voltage
or a colour is known of it but not both, and its nodes have names. -/
structure Net.Sound (net : Net) : Prop where
  low : 1 ≤ net.index
  high : net.index ≤ 2147483647
  layout : (∃ v, net.voltage? = some v ∧ v.endsWith (text "V") = true ∧ net.color? = none) ∨
    ∃ color ∈ NetTable.colors, net.color? = some (text color) ∧ net.voltage? = none
  nodes : ∀ node ∈ net.nodes, node.Solid ∧ .char ',' ∉ node

namespace NetTable

/-! The lines. -/

def rows (table : Text) : List Text :=
  ((Text.splitAt (.char '\n') table).map Text.trim).filter isRow

/-- How lines are accounted for, each once and in their order, after a net of
the index `last`: as a net, as a fault, or not at all if the index is passed. -/
inductive Accounted : Int → List Text → List Net → List Fault → Prop
  | nil (last : Int) : Accounted last [] [] []
  | net {last : Int} {line name rest : Text} {lines : List Text} {net : Net}
      {nets : List Net} {faults : List Fault} (indexed : Indexed line net.index name rest)
      (named : net.name = name.trim) (above : last < net.index)
      (others : Accounted net.index lines nets faults) :
      Accounted last (line :: lines) (net :: nets) faults
  | fault {last : Int} {line : Text} {lines : List Text} {nets : List Net}
      {faults : List Fault} (cause : Cause)
      (unpassed : ∀ index name rest, Indexed line index name rest → last < index)
      (others : Accounted last lines nets faults) :
      Accounted last (line :: lines) nets (⟨line, cause⟩ :: faults)
  | dropped {last index : Int} {line name rest : Text} {lines : List Text}
      {nets : List Net} {faults : List Fault} (indexed : Indexed line index name rest)
      (passed : index ≤ last) (others : Accounted last lines nets faults) :
      Accounted last (line :: lines) nets faults

variable {last index : Int} {line name rest s : Text} {lines : List Text} {net : Net}
  {nets : List Net} {faults : List Fault} {colored : Bool}

theorem Accounted.rising (accounted : Accounted last lines nets faults) :
    (∀ net ∈ nets, last < net.index) ∧
      nets.Pairwise fun net next => net.index < next.index := by
  induction accounted with
  | nil => exact ⟨fun net member => absurd member List.not_mem_nil, .nil⟩
  | net indexed named above others ih =>
      obtain ⟨later, rising⟩ := ih
      refine ⟨fun net member => ?_, .cons later rising⟩
      rcases List.mem_cons.1 member with rfl | member
      · exact above
      · exact Int.lt_trans above (later net member)
  | fault cause unpassed others ih => exact ih
  | dropped indexed passed others ih => exact ih

/-! A net. -/

theorem sound_nodes : ∀ node ∈ nodes s, node.Solid ∧ .char ',' ∉ node := by
  intro node member
  obtain ⟨known, given⟩ := List.mem_filter.1 member
  obtain ⟨part, own, rfl⟩ := List.mem_map.1 known
  refine ⟨⟨Text.trimmed_trim part, ?_⟩, fun inside => ?_⟩
  · simpa using given
  · exact Text.not_mem_of_mem_splitAt own ((Text.trim_sublist part).subset inside)

theorem voltageNet_eq_ok {layout : NetLayout} {names : List Text}
    (made : voltageNet s = .ok (layout, names)) :
    ∃ v part, layout = .voltage (v ++ text "V") ∧ names = nodes part := by
  unfold voltageNet at made
  split at made
  · cases made
  · cases made
    exact ⟨_, _, rfl, rfl⟩

theorem colorNet_eq_ok {layout : NetLayout} {names : List Text}
    (made : colorNet s = .ok (layout, names)) :
    ∃ color ∈ colors, ∃ extra part, layout = .color (text color) extra ∧ names = nodes part := by
  unfold colorNet at made
  dsimp only at made
  split at made
  · cases made
  · next color rest search =>
      obtain ⟨c, known, found⟩ := List.exists_of_findSome?_eq_some search
      obtain ⟨_, _, same⟩ := Option.map_eq_some_iff.1 found
      cases same
      split at made
      all_goals
        cases made
        exact ⟨c, known, _, _, rfl, rfl⟩

theorem sound_row (made : row index name rest colored = .ok net) (low : 1 ≤ index)
    (high : index ≤ 2147483647) : net.Sound ∧ net.name = name.trim := by
  unfold row at made
  cases cells : (if colored then colorNet else voltageNet) rest.trim with
  | error cause =>
      rw [cells] at made
      cases made
  | ok cells' =>
      obtain ⟨layout, names⟩ := cells'
      rw [cells] at made
      cases made
      cases colored with
      | false =>
          obtain ⟨v, part, rfl, rfl⟩ := voltageNet_eq_ok cells
          have ends : (v ++ text "V").endsWith (text "V") = true :=
            Text.endsWith_iff.2 ⟨v, rfl⟩
          exact ⟨⟨low, high, .inl ⟨_, rfl, ends, rfl⟩, sound_nodes⟩, rfl⟩
      | true =>
          obtain ⟨color, known, extra, part, rfl, rfl⟩ := colorNet_eq_ok cells
          exact ⟨⟨low, high, .inr ⟨color, known, rfl, rfl⟩, sound_nodes⟩, rfl⟩

/-! The whole table. -/

/-- How a reading ends: without a result at an endless line, or else with nets
and faults that account for the lines. -/
inductive Ends (last : Int) (lines : List Text) : Option (List Net × List Fault) → Prop
  | endless (endless : ∃ line ∈ lines, Endless line) : Ends last lines none
  | read {nets : List Net} {faults : List Fault} (finite : ∀ line ∈ lines, ¬ Endless line)
      (sound : ∀ net ∈ nets, net.Sound) (accounted : Accounted last lines nets faults) :
      Ends last lines (some (nets, faults))

theorem Ends.cons {later : Int} {result : Option (List Net × List Fault)}
    (ends : Ends later lines result) (finite : ¬ Endless line)
    (add : List Net × List Fault → List Net × List Fault)
    (adds : ∀ nets faults, (∀ net ∈ nets, net.Sound) → Accounted later lines nets faults →
      (∀ net ∈ (add (nets, faults)).1, net.Sound) ∧
        Accounted last (line :: lines) (add (nets, faults)).1 (add (nets, faults)).2) :
    Ends last (line :: lines) (result.map add) := by
  cases ends with
  | endless endless =>
      obtain ⟨other, member, many⟩ := endless
      exact .endless ⟨other, List.mem_cons_of_mem line member, many⟩
  | read others sound accounted =>
      obtain ⟨sound, accounted⟩ := adds _ _ sound accounted
      exact .read (List.forall_mem_cons.2 ⟨finite, others⟩) sound accounted

theorem ends_readLines (colored : Bool) (start : 0 ≤ last) (lines : List Text) :
    Ends last ((lines.map Text.trim).filter isRow) (readLines colored last lines) := by
  -- The last index varies: a net raises it for the lines that come after its own.
  induction lines generalizing colored last with
  | nil =>
      have nothing : ∀ {α : Type} {p : α → Prop}, ∀ x ∈ [], p x :=
        fun x member => absurd member List.not_mem_nil
      exact .read nothing nothing (.nil last)
  | cons line lines ih =>
      rw [List.map_cons, readLines]
      dsimp only
      split
      · next void =>
          rw [List.filter_cons_of_neg (by simp [isRow, void])]
          exact ih colored start
      · next given =>
          split
          · next leads =>
              rw [List.filter_cons_of_neg (by simp [isRow, leads])]
              exact ih _ start
          · next plain =>
              rw [List.filter_cons_of_pos (by simp [isRow, given, plain])]
              have came := verdict colored last line.trim
              generalize readLine colored last line.trim = outcome at came
              cases came with
              | endless endless => exact .endless ⟨_, List.mem_cons_self, endless⟩
              | redraw indexed passed =>
                  have others := (ih colored start).cons indexed.finite id
                    fun nets faults sound accounted =>
                      ⟨sound, .dropped indexed passed accounted⟩
                  rwa [Option.map_id] at others
              | fault finite unpassed =>
                  exact (ih colored start).cons finite _ fun nets faults sound accounted =>
                    ⟨sound, .fault _ unpassed accounted⟩
              | @net made name rest indexed above row =>
                  obtain ⟨own, named⟩ := sound_row row (by omega) indexed.high
                  exact (ih colored (by omega)).cons indexed.finite _
                    fun nets faults sound accounted =>
                      ⟨List.forall_mem_cons.2 ⟨own, sound⟩, .net indexed named above accounted⟩

/-- A table is read as sound nets with rising indices and as faults, and every
line that is to be a net is accounted for, unless one of them is endless. -/
theorem read_accounted (table : Text) :
    (∃ nets faults, read? table = some (nets, faults) ∧ (∀ line ∈ rows table, ¬ Endless line) ∧
      (∀ net ∈ nets, net.Sound) ∧ (nets.Pairwise fun net next => net.index < next.index) ∧
      Accounted 0 (rows table) nets faults) ∨
    read? table = none ∧ ∃ line ∈ rows table, Endless line := by
  have ends := ends_readLines false (Int.le_refl 0) (Text.splitAt (.char '\n') table)
  rw [← rows, ← read?] at ends
  generalize read? table = result at ends
  cases ends with
  | endless endless => exact .inr ⟨rfl, endless⟩
  | read finite sound accounted =>
      exact .inl ⟨_, _, rfl, finite, sound, accounted.rising.2, accounted⟩

def ones : Text := List.replicate (mostDigits + 1) (.char '1')

def lengthy : Text := ones ++ .char '\t' :: (text "A" ++ .char '\t' :: text "0 V")

theorem figures_ones : Figures ones where
  given := List.cons_ne_nil _ _
  each c member := by
    rw [List.eq_of_mem_replicate member]
    decide

theorem not_mem_ones {c : CodePoint} (other : c ≠ .char '1') : c ∉ ones :=
  fun member => other (List.eq_of_mem_replicate member)

theorem endless_lengthy : Endless lengthy := by
  have spelled := Spells.plain figures_ones
  rw [← figures_ones.solid.trim] at spelled
  refine ⟨_, _, _, _, .mk (not_mem_ones (by decide)) (by decide) spelled, ?_⟩
  rw [figures_ones.solid.trim, ones, List.length_replicate]
  exact Nat.lt_succ_self mostDigits

theorem rows_lengthy : rows lengthy = [lengthy] := by
  have last : (text "V").Solid := Text.solid_of_nonblank (by decide) (by decide)
  have whole : lengthy.Solid := figures_ones.solid.around (text "\tA\t0 ") last
  have line : .char '\n' ∉ lengthy :=
    List.not_mem_append (not_mem_ones (by decide)) (by decide)
  rw [rows, Text.splitAt_of_free line, List.map_singleton, whole.trim]
  rfl

/-- The only line of a table is neither a net nor a fault, nor dropped: there is no result. -/
theorem lengthy_unread : rows lengthy = [lengthy] ∧ read? lengthy = none := by
  refine ⟨rows_lengthy, ?_⟩
  have ends := ends_readLines false (Int.le_refl 0) (Text.splitAt (.char '\n') lengthy)
  rw [← rows, ← read?, rows_lengthy] at ends
  generalize read? lengthy = result at ends
  cases ends with
  | endless => rfl
  | read finite => exact absurd endless_lengthy (finite lengthy List.mem_cons_self)

end NetTable

end Breadboard
