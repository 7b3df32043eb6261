import Breadboard.Proofs.Text.Split
import Breadboard.Proofs.Number.Numeral
import Breadboard.Reply.NetTable

/-! What a line of a net table comes to. A line with an index is one of three
fields, the first of which spells a number. -/

namespace Breadboard

namespace NetTable

/-! The number of an index field. -/

structure Figures (s : Text) : Prop where
  given : s ≠ []
  each : ∀ c ∈ s, 0x30 ≤ c.toNat ∧ c.toNat ≤ 0x39

def worth (s : Text) : Nat := ofDigits (s.map fun c => c.toNat - 0x30)

inductive Spells : Text → Text → Int → Prop
  | plain {digits : Text} (figures : Figures digits) :
      Spells digits digits (worth digits)
  | plus {digits : Text} (figures : Figures digits) :
      Spells (.char '+' :: digits) digits (worth digits)
  | minus {digits : Text} (figures : Figures digits) :
      Spells (.char '-' :: digits) digits (-(worth digits))

variable {field digits s : Text} {index : Int}

theorem mapM_asciiDigit? (each : ∀ c ∈ s, 0x30 ≤ c.toNat ∧ c.toNat ≤ 0x39) :
    s.mapM CodePoint.asciiDigit? = some (s.map fun c => c.toNat - 0x30) := by
  induction s with
  | nil => rfl
  | cons c s ih =>
      have digit : c.asciiDigit? = some (c.toNat - 0x30) :=
        if_pos (each c List.mem_cons_self)
      have rest := ih fun d member => each d (List.mem_cons_of_mem c member)
      rw [List.mapM_cons, digit, rest]
      rfl

theorem figures_of_mapM {d : Nat} {ds : List Nat}
    (read : s.mapM CodePoint.asciiDigit? = some (d :: ds)) : Figures s where
  given := by
    rintro rfl
    cases read
  each := by
    generalize d :: ds = all at read
    induction s generalizing all with
    | nil => exact fun c member => absurd member List.not_mem_nil
    | cons c s ih =>
        rw [List.mapM_cons] at read
        obtain ⟨digit, own, read⟩ := Option.bind_eq_some_iff.1 read
        obtain ⟨others, rest, _⟩ := Option.bind_eq_some_iff.1 read
        intro x member
        rcases List.mem_cons.1 member with rfl | later
        · by_contra other
          rw [CodePoint.asciiDigit?, if_neg other] at own
          cases own
        · exact ih others rest x later

theorem Figures.solid (figures : Figures s) : s.Solid :=
  Text.solid_of_nonblank figures.given fun c member => by
    obtain ⟨low, high⟩ := figures.each c member
    exact CodePoint.isBlank_of_visible (by omega) (by omega)

theorem Figures.unsigned (figures : Figures s) : Numeral.takeSign s = (false, s) := by
  unfold Numeral.takeSign
  split
  · exact absurd (figures.each _ List.mem_cons_self) (by decide)
  · exact absurd (figures.each _ List.mem_cons_self) (by decide)
  · rfl

/-- A field of digits behind a sign is read, unless the digits are too many. -/
theorem index?_of_takeSign {negative : Bool} (signed : Numeral.takeSign field = (negative, s))
    (figures : Figures s) :
    index? field = some (if mostDigits < s.length then .error .tooLong
      else .ok (if negative then -(worth s : Int) else worth s)) := by
  obtain ⟨c, rest, rfl⟩ := List.exists_cons_of_ne_nil figures.given
  have read : (c :: rest).mapM CodePoint.asciiDigit? =
      some ((c.toNat - 0x30) :: rest.map fun c => c.toNat - 0x30) :=
    mapM_asciiDigit? figures.each
  rw [index?, signed]
  dsimp only
  rw [read]
  dsimp only
  rw [ofDigits?, List.length_cons, List.length_map, ← List.length_cons (a := c)]
  by_cases many : mostDigits < (c :: rest).length
  · rw [if_pos many, if_pos many]
    rfl
  · rw [if_neg many, if_neg many]
    cases negative <;> rfl

theorem Spells.signed (spelled : Spells field digits index) :
    Figures digits ∧ ∃ negative, Numeral.takeSign field = (negative, digits) ∧
      index = if negative then -(worth digits : Int) else worth digits := by
  cases spelled with
  | plain figures => exact ⟨figures, false, figures.unsigned, rfl⟩
  | plus figures => exact ⟨figures, false, rfl, rfl⟩
  | minus figures => exact ⟨figures, true, rfl, rfl⟩

theorem Spells.index? (spelled : Spells field digits index) :
    index? field = some (if mostDigits < digits.length then .error .tooLong else .ok index) := by
  obtain ⟨figures, negative, signed, rfl⟩ := spelled.signed
  exact index?_of_takeSign signed figures

theorem Spells.unique {digits' : Text} {index' : Int} (spelled : Spells field digits index)
    (other : Spells field digits' index') : digits = digits' ∧ index = index' := by
  obtain ⟨_, negative, signed, rfl⟩ := spelled.signed
  obtain ⟨_, negative', signed', rfl⟩ := other.signed
  rw [signed] at signed'
  cases signed'
  exact ⟨rfl, rfl⟩

theorem exists_spells {found : Except IntegerFault Int} (read : index? field = some found) :
    ∃ digits index, Spells field digits index := by
  unfold NetTable.index? at read
  split at read
  next negative s signed =>
  split at read
  · cases read
  · cases read
  · next ds other some =>
      obtain ⟨d, ds, rfl⟩ := List.exists_cons_of_ne_nil other
      have figures := figures_of_mapM some
      unfold Numeral.takeSign at signed
      split at signed
      · cases signed
        exact ⟨_, _, .minus figures⟩
      · cases signed
        exact ⟨_, _, .plus figures⟩
      · cases signed
        exact ⟨_, _, .plain figures⟩

/-! A line. -/

/-- Whether a line is to be a net: it is neither blank nor a header. -/
def isRow (line : Text) : Bool := !line.isEmpty && !line.startsWith header

def row (index : Int) (name rest : Text) (colored : Bool) : Except Cause Net :=
  ((if colored then colorNet else voltageNet) rest.trim).map
    fun (layout, nodes) => ⟨index, name.trim, layout, nodes⟩

def Outcome.ofRow : Except Cause Net → Outcome
  | .error cause => .fault cause
  | .ok made => .net made

inductive Entered : Text → Text → Int → Text → Text → Prop
  | mk {first name rest digits : Text} {index : Int} (first_tab : .char '\t' ∉ first)
      (name_tab : .char '\t' ∉ name) (spelled : Spells first.trim digits index) :
      Entered (first ++ .char '\t' :: (name ++ .char '\t' :: rest)) digits index name rest

/-- A line whose index has more digits than are read. -/
def Endless (line : Text) : Prop :=
  ∃ digits index name rest, Entered line digits index name rest ∧ mostDigits < digits.length

/-- A line that has an index of 32 bits, in no more digits than are read. -/
structure Indexed (line : Text) (index : Int) (name rest : Text) : Prop where
  entered : ∃ digits, Entered line digits index name rest ∧ digits.length ≤ mostDigits
  low : -2147483648 ≤ index
  high : index ≤ 2147483647

variable {line name rest : Text} {last : Int} {colored : Bool}

theorem fields_of_free {first : Text} (first_tab : .char '\t' ∉ first)
    (name_tab : .char '\t' ∉ name) (rest : Text) :
    fields (first ++ .char '\t' :: (name ++ .char '\t' :: rest)) = .ok (first, name, rest) := by
  simp only [fields, show tab = [.char '\t'] from rfl, Text.cut?_single first_tab,
    Text.cut?_single name_tab]

theorem eq_of_fields {first : Text} (parts : fields line = .ok (first, name, rest)) :
    line = first ++ .char '\t' :: (name ++ .char '\t' :: rest) ∧
      .char '\t' ∉ first ∧ .char '\t' ∉ name := by
  unfold fields at parts
  split at parts
  · cases parts
  · next front back one =>
      split at parts
      · cases parts
      · next two =>
          cases parts
          have whole := Text.eq_append_of_cut? one
          rw [Text.eq_append_of_cut? two] at whole
          refine ⟨?_, Text.not_mem_of_cut? one, Text.not_mem_of_cut? two⟩
          rw [whole]
          simp only [tab, text, List.append_assoc]
          rfl

theorem entered_of_fields {first digits : Text} (parts : fields line = .ok (first, name, rest))
    (spelled : Spells first.trim digits index) : Entered line digits index name rest := by
  obtain ⟨rfl, first_tab, name_tab⟩ := eq_of_fields parts
  exact .mk first_tab name_tab spelled

theorem Entered.fields {digits : Text} (entered : Entered line digits index name rest) :
    ∃ first, NetTable.fields line = .ok (first, name, rest) ∧
      Spells first.trim digits index := by
  obtain ⟨first_tab, name_tab, spelled⟩ := entered
  exact ⟨_, fields_of_free first_tab name_tab _, spelled⟩

theorem Entered.unique {digits digits' name' rest' : Text} {index' : Int}
    (entered : Entered line digits index name rest)
    (other : Entered line digits' index' name' rest') :
    digits = digits' ∧ index = index' := by
  obtain ⟨first, parts, spelled⟩ := entered.fields
  obtain ⟨first', parts', spelled'⟩ := other.fields
  rw [parts] at parts'
  cases parts'
  exact spelled.unique spelled'

theorem Indexed.finite (indexed : Indexed line index name rest) : ¬ Endless line := by
  rintro ⟨digits, index', name', rest', entered, many⟩
  obtain ⟨digits', own, few⟩ := indexed.entered
  obtain ⟨rfl, _⟩ := entered.unique own
  exact absurd few (Nat.not_le.2 many)

theorem Indexed.unique {index' : Int} {name' rest' : Text}
    (indexed : Indexed line index name rest) (other : Indexed line index' name' rest') :
    index = index' := by
  obtain ⟨_, entered, _⟩ := indexed.entered
  obtain ⟨_, entered', _⟩ := other.entered
  exact (entered.unique entered').2

theorem readLine_endless (endless : Endless line) (colored : Bool) (last : Int) :
    readLine colored last line = .endless := by
  obtain ⟨digits, index, name, rest, entered, many⟩ := endless
  obtain ⟨first, parts, spelled⟩ := entered.fields
  rw [readLine, parts]
  dsimp only
  rw [spelled.index?, if_pos many]

/-- A line with an index is a redraw from that index on, and before it what its layout
makes of it. -/
theorem Indexed.readLine (indexed : Indexed line index name rest) (colored : Bool)
    (last : Int) : readLine colored last line =
      if index ≤ last then .redraw else .ofRow (row index name rest colored) := by
  obtain ⟨⟨digits, entered, few⟩, low, high⟩ := indexed
  obtain ⟨first, parts, spelled⟩ := entered.fields
  have inside : ¬ (index < -2147483648 ∨ 2147483647 < index) := by omega
  rw [NetTable.readLine, parts]
  dsimp only
  rw [spelled.index?, if_neg (Nat.not_lt.2 few)]
  dsimp only
  rw [if_neg inside, row]
  split
  · rfl
  · cases (if colored then colorNet else voltageNet) rest.trim <;> rfl

/-- A line that begins with a number is neither blank nor a header. -/
theorem Entered.isRow {digits : Text} (entered : Entered line digits index name rest) :
    isRow line = true := by
  obtain ⟨first_tab, name_tab, spelled⟩ := entered
  rename_i first
  have given : first ≠ [] := by
    rintro rfl
    cases spelled with
    | plain figures => exact figures.given rfl
  have plain :
      ¬ (first ++ .char '\t' :: (name ++ .char '\t' :: rest)).startsWith header = true := by
    intro leads
    obtain ⟨c, front, rfl⟩ := List.exists_cons_of_ne_nil given
    obtain ⟨more, same⟩ := Text.startsWith_iff.1 leads
    have lead : c = .char 'I' := (List.cons.inj same).1
    subst lead
    have letter : Text.Solid [.char 'I'] := Text.solid_of_nonblank (by decide) (by decide)
    have kept : Text.trim (.char 'I' :: front) = .char 'I' :: Text.trimEnd front :=
      letter.trim_append front
    rw [kept] at spelled
    cases spelled with
    | plain figures => exact absurd (figures.each _ List.mem_cons_self) (by decide)
  rw [NetTable.isRow, Bool.and_eq_true, Bool.not_eq_true', Bool.not_eq_true']
  exact ⟨by simp, by simpa using plain⟩

inductive Entry (line : Text) : Prop
  | faulty (cause : Cause) (reads : ∀ colored last, readLine colored last line = .fault cause)
  | endless (endless : Endless line)
  | numbered (index : Int) (name rest : Text) (indexed : Indexed line index name rest)

theorem entry (line : Text) : Entry line := by
  cases parts : fields line with
  | error count =>
      refine .faulty (.fewFields count) fun colored last => ?_
      rw [readLine, parts]
  | ok parts' =>
      obtain ⟨first, name, rest⟩ := parts'
      cases number : index? first.trim with
      | none =>
          refine .faulty (.badIndex first) fun colored last => ?_
          simp only [readLine, parts, number]
      | some found =>
          obtain ⟨digits, index, spelled⟩ := exists_spells number
          have entered := entered_of_fields parts spelled
          by_cases many : mostDigits < digits.length
          · exact .endless ⟨digits, index, name, rest, entered, many⟩
          · rw [spelled.index?, if_neg many] at number
            by_cases outside : index < -2147483648 ∨ 2147483647 < index
            · refine .faulty (.badIndex first) fun colored last => ?_
              simp only [readLine, parts, spelled.index?, if_neg many, if_pos outside]
            · exact .numbered index name rest
                ⟨⟨digits, entered, Nat.not_lt.1 many⟩, by omega, by omega⟩

inductive Verdict (colored : Bool) (last : Int) (line : Text) : Outcome → Prop
  | endless (endless : Endless line) : Verdict colored last line .endless
  | redraw {index : Int} {name rest : Text} (indexed : Indexed line index name rest)
      (passed : index ≤ last) : Verdict colored last line .redraw
  | fault {cause : Cause} (finite : ¬ Endless line)
      (unpassed : ∀ index name rest, Indexed line index name rest → last < index) :
      Verdict colored last line (.fault cause)
  | net {net : Net} {name rest : Text} (indexed : Indexed line net.index name rest)
      (above : last < net.index) (made : row net.index name rest colored = .ok net) :
      Verdict colored last line (.net net)

theorem row_index {net : Net} (made : row index name rest colored = .ok net) :
    net.index = index := by
  unfold row at made
  cases cells : (if colored then colorNet else voltageNet) rest.trim with
  | error cause =>
      rw [cells] at made
      cases made
  | ok cells' =>
      rw [cells] at made
      cases made
      rfl

theorem verdict (colored : Bool) (last : Int) (line : Text) :
    Verdict colored last line (readLine colored last line) := by
  cases entry line with
  | faulty cause reads =>
      rw [reads]
      refine .fault (fun endless => ?_) fun index name rest indexed => ?_
      · have := readLine_endless endless colored last
        rw [reads] at this
        cases this
      · -- a line with an index would be a redraw of itself
        have := indexed.readLine colored index
        rw [reads, if_pos (Int.le_refl index)] at this
        cases this
  | endless endless =>
      rw [readLine_endless endless]
      exact .endless endless
  | numbered index name rest indexed =>
      rw [indexed.readLine]
      by_cases passed : index ≤ last
      · rw [if_pos passed]
        exact .redraw indexed passed
      · rw [if_neg passed]
        have above : last < index := Int.not_le.1 passed
        cases made : row index name rest colored with
        | error cause =>
            exact .fault indexed.finite fun other _ _ also => indexed.unique also ▸ above
        | ok net =>
            obtain rfl := row_index made
            exact .net indexed above made

theorem Indexed.readLines {net : Net} (indexed : Indexed line.trim index name rest)
    (above : last < index) (made : row index name rest colored = .ok net) (lines : List Text) :
    readLines colored last (line :: lines) =
      (readLines colored index lines).map fun (nets, faults) => (net :: nets, faults) := by
  obtain ⟨_, entered, _⟩ := indexed.entered
  have kept := entered.isRow
  rw [isRow, Bool.and_eq_true, Bool.not_eq_true', Bool.not_eq_true'] at kept
  have read : NetTable.readLine colored last line.trim = .net net := by
    rw [indexed.readLine, if_neg (Int.not_le.2 above), made]
    rfl
  simp only [NetTable.readLines, kept.1, kept.2, read, row_index made, Bool.false_eq_true, if_false]

end NetTable

end Breadboard
