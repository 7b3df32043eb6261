import Breadboard.Proofs.Reply.NetLine
import Breadboard.Proofs.Reply.NetTable

/-! Readings that a colour line shows after its nodes. They are told from the
nodes by a tab, which is lost with the blanks around it if no node stands
before it: the readings are then taken for nodes. -/

namespace Breadboard

namespace NetTable

/-- The readings and the nodes that a text shows, told apart at its first tab. -/
def body (s : Text) : Option Text × List Text :=
  match Text.cut? tab s with
  | none => (none, nodes s.trim)
  | some (before, after) => (some after.trim, nodes before.trim)

def isSpace (c : CodePoint) : Bool := c.isBlank && c ≠ .char '\t'

def pastFlag? (s : Text) : Option Text :=
  match s.dropWhile isSpace with
  | .char '-' :: .char ' ' :: .char c :: rest => if c.isAlpha then some rest else none
  | _ => none

variable {s rest list extra more : Text} {c : String}

theorem colorNet_of_color (known : c ∈ colors) (marked : dropMarker s = text c ++ more) :
    colorNet s = .ok (.color (text c) (body (dropFlag more.trim)).1,
      (body (dropFlag more.trim)).2) := by
  rw [colorNet]
  dsimp only
  rw [marked, findSome?_color known, body]
  dsimp only
  cases Text.cut? tab (dropFlag more.trim) <;> rfl

/-! Flags. -/

theorem eq_of_pastFlag? (flagged : pastFlag? s = some rest) :
    ∃ (gap : Text) (letter : Char), gap.Void ∧ letter.isAlpha = true ∧
      s = gap ++ (text "- " ++ [.char letter] ++ rest) := by
  have gap : Text.Void (s.takeWhile isSpace) := fun c member => by
    have space := List.mem_takeWhile_imp member
    rw [isSpace, Bool.and_eq_true] at space
    exact space.1
  unfold pastFlag? at flagged
  split at flagged
  · next letter rest' shape =>
      split at flagged
      · next alpha =>
          cases flagged
          refine ⟨_, letter, gap, alpha, ?_⟩
          conv_lhs => rw [← List.takeWhile_append_dropWhile (p := isSpace) (l := s), shape]
          rfl
      · cases flagged
  · cases flagged

theorem dropFlag_trim_of_flagged (flagged : pastFlag? s = some rest) :
    dropFlag s.trim = rest.trim := by
  obtain ⟨gap, letter, void, alpha, rfl⟩ := eq_of_pastFlag? flagged
  rw [Text.trim_append_of_void_left void, (solid_flag alpha).trim_append]
  change dropFlag (.char '-' :: .char ' ' :: .char letter :: rest.trimEnd) = _
  rw [dropFlag, if_pos alpha, Text.trim_trimEnd]

/-! Nodes before a tab. -/

theorem trimStart_listed (listed : ¬ list.Void) (rest : Text) :
    Text.trimStart (list ++ rest) = list.trimStart ++ rest := by
  rw [Text.trimStart, List.dropWhile_append, if_neg]
  · rfl
  · rw [List.isEmpty_iff]
    exact fun nothing => listed (Text.trimStart_eq_nil_iff.1 nothing)

theorem trim_listed (listed : ¬ list.Void) (given : ¬ extra.Void) :
    Text.trim (list ++ .char '\t' :: extra) = list.trimStart ++ .char '\t' :: extra.trimEnd := by
  rw [Text.trim, trimStart_listed listed, ← List.singleton_append, ← List.append_assoc,
    Text.trimEnd_append_of_not_void _ given, List.append_assoc]
  rfl

/-- Without a tab, all blanks at the start of the nodes end no field. -/
theorem dropWhile_listed (list_tab : .char '\t' ∉ list) (listed : ¬ list.Void) (rest : Text) :
    (list ++ rest).dropWhile isSpace = list.trimStart ++ rest := by
  have spaces : ∀ c ∈ list.takeWhile CodePoint.isBlank, isSpace c = true := fun c member => by
    have other : c ≠ .char '\t' := by
      rintro rfl
      exact list_tab ((List.takeWhile_sublist _).subset member)
    simp [isSpace, List.mem_takeWhile_imp member, other]
  have split : list.takeWhile CodePoint.isBlank ++ list.trimStart = list :=
    List.takeWhile_append_dropWhile
  have core : list.trimStart ≠ [] := fun nothing => listed (Text.trimStart_eq_nil_iff.1 nothing)
  have start : (list.trimStart.head core).isBlank = false :=
    List.head_dropWhile_not CodePoint.isBlank core
  conv_lhs => rw [← split, List.append_assoc, List.dropWhile_append_of_pos spaces]
  obtain ⟨c, more, shape⟩ := List.exists_cons_of_ne_nil core
  simp only [shape, List.head_cons] at start ⊢
  exact List.dropWhile_cons_of_neg (by simp [isSpace, start])

theorem dropFlag_trim_of_unflagged (unflagged : pastFlag? (list ++ .char '\t' :: extra) = none)
    (list_tab : .char '\t' ∉ list) (listed : ¬ list.Void) :
    dropFlag (Text.trim (list ++ .char '\t' :: extra)) =
      Text.trim (list ++ .char '\t' :: extra) := by
  have start := dropWhile_listed list_tab listed (.char '\t' :: extra)
  obtain ⟨blank, whole⟩ := Text.trimEnd_leads (list.trimStart ++ .char '\t' :: extra)
  rw [pastFlag?, start] at unflagged
  rw [Text.trim, trimStart_listed listed]
  unfold dropFlag
  split
  · next letter rest shape =>
      split
      · next alpha =>
          rw [shape] at whole
          rw [← whole] at unflagged
          simp [alpha] at unflagged
      · rw [shape]
  · rfl

theorem body_listed (list_tab : .char '\t' ∉ list) (listed : ¬ list.Void)
    (given : ¬ extra.Void) :
    body (Text.trim (list ++ .char '\t' :: extra)) = (some extra.trim, nodes list.trim) := by
  have free : .char '\t' ∉ list.trimStart :=
    fun member => list_tab ((List.dropWhile_sublist _).subset member)
  rw [trim_listed listed given, body, show tab = [.char '\t'] from rfl, Text.cut?_single free]
  dsimp only
  rw [Text.trim_trimEnd, Text.trim_trimStart]

/-! Blanks before a tab. -/

theorem length_trim_le (s : Text) : s.trim.length ≤ s.length := (Text.trim_sublist s).length_le

theorem length_dropFlag_le (s : Text) : (dropFlag s).length ≤ s.length := by
  unfold dropFlag
  split
  · split
    · exact (length_trim_le _).trans (by simp only [List.length_cons]; omega)
    · exact Nat.le_refl _
  · exact Nat.le_refl _

/-- Readings told from a text are shorter than the text: a tab came before them. -/
theorem length_lt_of_body (told : (body s).1 = some rest) : rest.length < s.length := by
  unfold body at told
  split at told
  · cases told
  · next before after found =>
      cases told
      have whole := congrArg List.length (Text.eq_append_of_cut? found)
      have trimmed := length_trim_le after
      simp only [List.length_append, show tab.length = 1 from rfl] at whole
      omega

theorem body_ne {s : Text} (short : s.length ≤ rest.length) :
    (body s).1 ≠ some rest := by
  intro told
  exact absurd (length_lt_of_body told) (Nat.not_lt.2 short)

theorem trim_unlisted (unlisted : list.Void) (extra : Text) :
    Text.trim (list ++ .char '\t' :: extra) = extra.trim := by
  have void : Text.Void (list ++ [.char '\t']) := fun c member => by
    rcases List.mem_append.1 member with inside | border
    · exact unlisted c inside
    · rw [List.mem_singleton.1 border]
      rfl
  rw [← List.singleton_append, ← List.append_assoc, Text.trim_append_of_void_left void]

/-! A line. -/

/-- A line of the colour layout that comes after a net of the index `last`. Behind
its colour, and its flag if it has one, `list` ends at a tab and `extra` follows. -/
structure ColorLine (last : Int) (line : Text) (index : Int) (name : Text) (c : String)
    (list extra : Text) : Prop where
  shown : ∃ rest more, Indexed line index name rest ∧
    dropMarker rest.trim = text c ++ more ∧
    (pastFlag? more).getD more = list ++ .char '\t' :: extra
  above : last < index
  known : c ∈ colors
  list_tab : .char '\t' ∉ list
  given : ¬ extra.Void

/-- What the layout reads behind the colour, and behind the flag if there is one. -/
theorem dropFlag_trim (behind : (pastFlag? more).getD more = s) :
    dropFlag more.trim = s.trim ∨ pastFlag? s = none ∧ dropFlag more.trim = dropFlag s.trim := by
  cases flagged : pastFlag? more with
  | some rest =>
      rw [flagged, Option.getD_some] at behind
      exact .inl (behind ▸ dropFlag_trim_of_flagged flagged)
  | none =>
      rw [flagged, Option.getD_none] at behind
      subst behind
      exact .inr ⟨flagged, rfl⟩

variable {last index : Int} {line name : Text}

/-- Readings are told from the nodes of a line. Where there is no node before the
tab, they are taken for nodes, and what may be told from them is never all of them. -/
theorem readings_apart (shown : ColorLine last line.trim index name c list extra)
    (lines : List Text) :
    (¬ list.Void → readLines true last (line :: lines) =
      (readLines true index lines).map fun (nets, faults) =>
        (⟨index, name.trim, .color (text c) (some extra.trim), nodes list.trim⟩ :: nets, faults)) ∧
    (list.Void → ∃ s, (s = extra.trim ∨ s = dropFlag extra.trim) ∧
      (body s).1 ≠ some extra.trim ∧ readLines true last (line :: lines) =
        (readLines true index lines).map fun (nets, faults) =>
          (⟨index, name.trim, .color (text c) (body s).1, (body s).2⟩ :: nets, faults)) := by
  obtain ⟨⟨rest, more, indexed, marked, behind⟩, above, known, list_tab, given⟩ := shown
  have read : ∀ s, dropFlag more.trim = s → readLines true last (line :: lines) =
      (readLines true index lines).map fun (nets, faults) =>
        (⟨index, name.trim, .color (text c) (body s).1, (body s).2⟩ :: nets, faults) := by
    rintro _ rfl
    refine indexed.readLines above ?_ lines
    rw [row, if_pos rfl, colorNet_of_color known marked]
    rfl
  constructor
  · intro listed
    have same : dropFlag more.trim = Text.trim (list ++ .char '\t' :: extra) := by
      rcases dropFlag_trim behind with same | ⟨unflagged, same⟩
      · exact same
      · rw [same, dropFlag_trim_of_unflagged unflagged list_tab listed]
    have told := read _ same
    rwa [body_listed list_tab listed given] at told
  · intro unlisted
    rcases dropFlag_trim behind with same | ⟨_, same⟩
    · rw [trim_unlisted unlisted] at same
      exact ⟨_, .inl rfl, body_ne (Nat.le_refl _), read _ same⟩
    · rw [trim_unlisted unlisted] at same
      exact ⟨_, .inr rfl, body_ne (length_dropFlag_le _), read _ same⟩

def listedLine : Text := text "6\tNet 6\t\x08\x08* red   - f  GP_1,25 \t  input - floating"

def unlistedLine : Text := text "7\tNet 7\troyal blue   - f  \t  input - floating"

theorem colorLine_listed : ColorLine 0 listedLine.trim 6 (text "Net 6") "red"
    (text "  GP_1,25 ") (text "  input - floating") := by
  have spelled : Spells (Text.trim (text "6")) (text "6") 6 := .plain ⟨by decide, by decide⟩
  have parts : fields listedLine.trim = .ok (text "6", text "Net 6",
    text "\x08\x08* red   - f  GP_1,25 \t  input - floating") := by decide +kernel
  refine ⟨⟨_, text "   - f  GP_1,25 \t  input - floating",
    ⟨⟨_, entered_of_fields parts spelled, by decide⟩, by decide, by decide⟩, ?_, ?_⟩,
    by decide, by decide, by decide, by decide⟩
  · decide +kernel
  · decide +kernel

theorem colorLine_unlisted : ColorLine 6 unlistedLine.trim 7 (text "Net 7") "royal blue"
    (text "  ") (text "  input - floating") := by
  have spelled : Spells (Text.trim (text "7")) (text "7") 7 := .plain ⟨by decide, by decide⟩
  have parts : fields unlistedLine.trim = .ok (text "7", text "Net 7",
    text "royal blue   - f  \t  input - floating") := by decide +kernel
  refine ⟨⟨_, text "   - f  \t  input - floating",
    ⟨⟨_, entered_of_fields parts spelled, by decide⟩, by decide, by decide⟩, ?_, ?_⟩,
    by decide, by decide, by decide, by decide⟩
  · decide +kernel
  · decide +kernel

theorem listed_apart :
    readLines true 0 [listedLine, unlistedLine] =
      (readLines true 6 [unlistedLine]).map (fun (nets, faults) =>
        (⟨6, text "Net 6", .color (text "red") (some (text "input - floating")),
          [text "GP_1", text "25"]⟩ :: nets, faults)) ∧
    ∃ s, readLines true 6 [unlistedLine] = some ([⟨7, text "Net 7",
      .color (text "royal blue") (body s).1, (body s).2⟩], []) ∧
        (body s).1 ≠ some (text "input - floating") := by
  constructor
  · exact (readings_apart colorLine_listed [unlistedLine]).1 (by decide)
  · obtain ⟨s, _, other, read⟩ := (readings_apart colorLine_unlisted []).2 (by decide)
    exact ⟨s, read, other⟩

/-- A colour line without nodes: its readings are read as a node. -/
theorem readings_as_node :
    ColorLine 6 unlistedLine.trim 7 (text "Net 7") "royal blue" (text "  ")
      (text "  input - floating") ∧
    read? (text "Index\tName\tColor\tNodes\n" ++ unlistedLine) =
      some ([⟨7, text "Net 7", .color (text "royal blue") none, [text "input - floating"]⟩], []) :=
  ⟨colorLine_unlisted, by decide +kernel⟩

end NetTable

end Breadboard
