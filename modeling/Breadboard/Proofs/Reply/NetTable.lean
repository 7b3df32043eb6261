import Breadboard.Proofs.Number.Numeral
import Breadboard.Proofs.Text.Split
import Breadboard.Reply.NetTable

/-! The printed table of nets, and its reading. Rows are printed with any
blanks between their parts; a header stands wherever the layout changes. What
is read back are the nets of the rows, whatever the blanks and the marks. -/

namespace Breadboard

namespace NetTable

/-! Printing. -/

structure Gaps where
  name : Text := []
  value : Text := tab
  color : Text := text " "
  flag : Text := text "   "
  nodes : Text := text "   "
  border : Text := []
  extra : Text := []

/-- What a row tells between its name and its nodes, and after them. A colour
may follow backspaces and a star, and a flag may follow it. -/
inductive Cells where
  | voltage (v : Text)
  | color (name : Text) (backspaces : Nat) (star : Bool) (flag : Option Char)
      (extra : Option Text)

structure Row where
  index : Nat
  name : Text
  cells : Cells
  nodes : List Text
  gaps : Gaps := {}

def Cells.colored : Cells → Bool
  | .voltage _ => false
  | .color .. => true

def Cells.layout : Cells → NetLayout
  | .voltage v => .voltage (v ++ text "V")
  | .color name _ _ _ extra => .color name extra

def Row.net (row : Row) : Net :=
  ⟨row.index, row.name, row.cells.layout, row.nodes⟩

def markText (gaps : Gaps) (backspaces : Nat) (star : Bool) : Text :=
  List.replicate backspaces (.char '\x08') ++
    if star then text "*" ++ gaps.color else []

def flagText (gaps : Gaps) : Option Char → Text
  | none => []
  | some letter => gaps.flag ++ (text "- " ++ [.char letter])

def extraText (gaps : Gaps) : Option Text → Text
  | none => []
  | some extra => gaps.border ++ tab ++ gaps.extra ++ extra

def nodesText (nodes : List Text) : Text := Text.joinWith (text ",") nodes

def Cells.field (gaps : Gaps) (nodes : List Text) : Cells → Text
  | .voltage v => v ++ text " V" ++ (gaps.nodes ++ nodesText nodes)
  | .color name backspaces star flag extra =>
      markText gaps backspaces star ++ (name ++ (flagText gaps flag ++
        (gaps.nodes ++ (nodesText nodes ++ extraText gaps extra))))

def Row.field (row : Row) : Text := row.cells.field row.gaps row.nodes

def Row.line (row : Row) : Text :=
  Text.ofNat row.index ++ (tab ++ (row.gaps.name ++ row.name) ++ tab ++
    row.gaps.value ++ row.field)

/-- The lines of a table, after a header for the layout `now` or none. -/
def lines (heads : Bool → Text) : Option Bool → List Row → List Text
  | _, [] => []
  | now, row :: rest =>
      let colored := row.cells.colored
      (if now = some colored then [] else [heads colored]) ++
        row.line :: lines heads (some colored) rest

def print (heads : Bool → Text) (now : Option Bool) (rows : List Row) : Text :=
  (lines heads now rows).flatMap (· ++ text "\n")

/-! Which rows can be printed. -/

structure Gap (s : Text) : Prop where
  void : s.Void
  tab : .char '\t' ∉ s
  line : .char '\n' ∉ s

structure Gaps.Fit (gaps : Gaps) : Prop where
  name : Gap gaps.name
  value : gaps.value.Void
  value_line : .char '\n' ∉ gaps.value
  color : Gap gaps.color
  flag : Gap gaps.flag
  nodes : Gap gaps.nodes
  border : Gap gaps.border
  extra : Gap gaps.extra

structure NodeName (s : Text) : Prop extends s.Solid where
  comma : .char ',' ∉ s
  tab : .char '\t' ∉ s
  line : .char '\n' ∉ s
  dash : s.head? ≠ some (.char '-')

def Cells.Fit : Cells → Prop
  | .voltage v => v.Solid ∧ .char '\n' ∉ v ∧ ¬ text " V" <:+: v
  | .color name _ _ flag extra =>
      (∃ color ∈ colors, name = text color) ∧
      (∀ letter ∈ flag, letter.isAlpha = true) ∧
      ∀ more ∈ extra, more.Solid ∧ .char '\n' ∉ more

structure Row.Fit (row : Row) : Prop where
  low : 1 ≤ row.index
  high : row.index ≤ 2147483647
  name : row.name.Trimmed
  name_tab : .char '\t' ∉ row.name
  name_line : .char '\n' ∉ row.name
  cells : row.cells.Fit
  nodes : ∀ node ∈ row.nodes, NodeName node
  given : row.cells.colored = true → row.nodes ≠ []
  gaps : row.gaps.Fit

/-- A header line, and whether it announces colours. -/
structure Announces (line : Text) (colored : Bool) : Prop where
  leads : line.trim.startsWith header = true
  tells : line.trim.contains (text "Color") = colored
  line : .char '\n' ∉ line

instance (s : Text) : Decidable (Gap s) :=
  decidable_of_iff (s.Void ∧ .char '\t' ∉ s ∧ .char '\n' ∉ s)
    ⟨fun ⟨void, tab, line⟩ => ⟨void, tab, line⟩,
      fun gap => ⟨gap.void, gap.tab, gap.line⟩⟩

instance (gaps : Gaps) : Decidable gaps.Fit :=
  decidable_of_iff (Gap gaps.name ∧ gaps.value.Void ∧ .char '\n' ∉ gaps.value ∧
      Gap gaps.color ∧ Gap gaps.flag ∧ Gap gaps.nodes ∧ Gap gaps.border ∧ Gap gaps.extra)
    ⟨fun ⟨name, value, line, color, flag, nodes, border, extra⟩ =>
        ⟨name, value, line, color, flag, nodes, border, extra⟩,
      fun ⟨name, value, line, color, flag, nodes, border, extra⟩ =>
        ⟨name, value, line, color, flag, nodes, border, extra⟩⟩

instance (s : Text) : Decidable (NodeName s) :=
  decidable_of_iff (s.Solid ∧ .char ',' ∉ s ∧ .char '\t' ∉ s ∧ .char '\n' ∉ s ∧
      s.head? ≠ some (.char '-'))
    ⟨fun ⟨solid, comma, tab, line, dash⟩ => ⟨solid, comma, tab, line, dash⟩,
      fun ⟨solid, comma, tab, line, dash⟩ => ⟨solid, comma, tab, line, dash⟩⟩

instance : (cells : Cells) → Decidable cells.Fit
  | .voltage v =>
      inferInstanceAs (Decidable (v.Solid ∧ .char '\n' ∉ v ∧ ¬ text " V" <:+: v))
  | .color name _ _ flag extra =>
      -- Otherwise every character would be tried, as there are finitely many.
      have : Decidable (∀ letter ∈ flag, letter.isAlpha = true) :=
        Option.decidableForallMem flag
      inferInstanceAs (Decidable ((∃ color ∈ colors, name = text color) ∧
        (∀ letter ∈ flag, letter.isAlpha = true) ∧
        ∀ more ∈ extra, more.Solid ∧ .char '\n' ∉ more))

instance (row : Row) : Decidable row.Fit :=
  decidable_of_iff (1 ≤ row.index ∧ row.index ≤ 2147483647 ∧ row.name.Trimmed ∧
      .char '\t' ∉ row.name ∧ .char '\n' ∉ row.name ∧ row.cells.Fit ∧
      (∀ node ∈ row.nodes, NodeName node) ∧
      (row.cells.colored = true → row.nodes ≠ []) ∧ row.gaps.Fit)
    ⟨fun ⟨low, high, name, tab, line, cells, nodes, given, gaps⟩ =>
        ⟨low, high, name, tab, line, cells, nodes, given, gaps⟩,
      fun ⟨low, high, name, tab, line, cells, nodes, given, gaps⟩ =>
        ⟨low, high, name, tab, line, cells, nodes, given, gaps⟩⟩

instance (line : Text) (colored : Bool) : Decidable (Announces line colored) :=
  decidable_of_iff (line.trim.startsWith header = true ∧
      line.trim.contains (text "Color") = colored ∧ .char '\n' ∉ line)
    ⟨fun ⟨leads, tells, line⟩ => ⟨leads, tells, line⟩,
      fun ⟨leads, tells, line⟩ => ⟨leads, tells, line⟩⟩

/-! The nodes. -/

theorem solid_nodesText {nodes : List Text}
    (names : ∀ node ∈ nodes, NodeName node) (given : nodes ≠ []) :
    (nodesText nodes).Solid := by
  induction nodes with
  | nil => exact absurd rfl given
  | cons node rest ih =>
      have first := (names node List.mem_cons_self).toSolid
      cases rest with
      | nil => exact first
      | cons next rest =>
          have others := ih (fun other member =>
            names other (List.mem_cons_of_mem node member)) (List.cons_ne_nil _ _)
          rw [nodesText, Text.joinWith, List.append_assoc]
          · exact first.around (text ",") others
          · exact List.cons_ne_nil next rest

theorem trim_nodesText {nodes : List Text}
    (names : ∀ node ∈ nodes, NodeName node) :
    (nodesText nodes).trim = nodesText nodes := by
  cases nodes with
  | nil => rfl
  | cons node rest =>
      exact (solid_nodesText names (List.cons_ne_nil node rest)).trim

theorem mem_nodesText {nodes : List Text} {c : CodePoint}
    (member : c ∈ nodesText nodes) :
    c = .char ',' ∨ ∃ node ∈ nodes, c ∈ node := by
  induction nodes with
  | nil => exact absurd member (List.not_mem_nil (a := c))
  | cons node rest ih =>
      cases rest with
      | nil => exact .inr ⟨node, List.mem_cons_self, member⟩
      | cons next rest =>
          rw [nodesText, Text.joinWith, List.mem_append, List.mem_append] at member
          · rcases member with (inNode | comma) | later
            · exact .inr ⟨node, List.mem_cons_self, inNode⟩
            · exact .inl (List.mem_singleton.1 comma)
            · obtain comma | ⟨other, known, inside⟩ := ih later
              · exact .inl comma
              · exact .inr ⟨other, List.mem_cons_of_mem node known, inside⟩
          · exact List.cons_ne_nil next rest

theorem nodes_nodesText {names : List Text}
    (each : ∀ node ∈ names, NodeName node) : nodes (nodesText names) = names := by
  cases names with
  | nil => rfl
  | cons node rest =>
      have parts : Text.splitAt (.char ',') (nodesText (node :: rest)) = node :: rest :=
        Text.splitAt_joinWith (List.cons_ne_nil node rest)
          fun part member => (each part member).comma
      have trimmed : (node :: rest).map Text.trim = node :: rest := by
        conv_rhs => rw [← List.map_id (node :: rest)]
        exact List.map_congr_left fun part member => (each part member).trim
      rw [nodes, parts, trimmed, List.filter_eq_self]
      intro part member
      simp [(each part member).given]

/-! The last field of a row with a voltage. -/

variable {gaps : Gaps} {names : List Text}

theorem solid_unit {v : Text} (solid : v.Solid) : (v ++ text " V").Solid :=
  solid.around (text " ") (c := text "V")
    (Text.solid_of_nonblank (by decide) (by decide))

/-- A unit that is not part of the voltage is not cut short by its end. -/
theorem ahead_unit {v : Text} (free : ¬ text " V" <:+: v) :
    Text.Ahead (text " V") v := by
  intro rest ending given back leads
  obtain ⟨c, rest, rfl⟩ := List.exists_cons_of_ne_nil given
  obtain ⟨more, same⟩ := leads
  cases rest with
  | nil =>
      -- the blank of the unit would be the letter of an earlier one
      cases same
  | cons d rest =>
      cases same
      exact free (List.IsInfix.trans ⟨[], rest, rfl⟩ ending.isInfix)

theorem voltageNet_field {v : Text} (fit : (Cells.voltage v).Fit)
    (blanks : gaps.Fit) (each : ∀ node ∈ names, NodeName node) :
    voltageNet ((Cells.voltage v).field gaps names).trim =
      .ok (.voltage (v ++ text "V"), names) := by
  obtain ⟨solid, _, free⟩ := fit
  have split : ((Cells.voltage v).field gaps names).trim =
      v ++ (text " V" ++ (gaps.nodes ++ nodesText names).trimEnd) := by
    rw [Cells.field, (solid_unit solid).trim_append, List.append_assoc]
  have after : (gaps.nodes ++ nodesText names).trimEnd.trim = nodesText names := by
    rw [Text.trim_trimEnd, Text.trim_append_of_void_left blanks.nodes.void,
      trim_nodesText each]
  rw [split, voltageNet, Text.cut?_of_ahead (ahead_unit free)]
  dsimp only
  rw [after, solid.trim, nodes_nodesText each]

/-! The last field of a row with a colour. -/

theorem eq_of_prefix_colors {c d : String} (one : c ∈ colors) (other : d ∈ colors)
    (leads : text c <+: text d) : c = d := by
  have each : ∀ c ∈ colors, ∀ d ∈ colors, text c <+: text d → c = d := by decide
  exact each c one d other leads

theorem solid_color {c : String} (known : c ∈ colors) : (text c).Solid := by
  have each : ∀ c ∈ colors, text c ≠ [] ∧
      (∀ x ∈ (text c).head?, x.isBlank = false) ∧
      (∀ x ∈ (text c).getLast?, x.isBlank = false) := by decide
  obtain ⟨given, head, last⟩ := each c known
  exact ⟨⟨head, last⟩, given⟩

/-- The colour that a text starts with is the only one that it starts with. -/
theorem findSome?_color {c : String} (known : c ∈ colors) (rest : Text) :
    (colors.findSome? fun d =>
      (Text.dropLead? (text d) (text c ++ rest)).map (text d, ·)) =
        some (text c, rest) := by
  have only : ∀ d ∈ colors, ∀ found,
      (Text.dropLead? (text d) (text c ++ rest)).map (text d, ·) = some found →
        found = (text c, rest) := by
    intro d other found equality
    obtain ⟨more, dropped, rfl⟩ := Option.map_eq_some_iff.1 equality
    have leads : text d <+: text c ++ rest :=
      ⟨more, (Text.dropLead?_eq_some_iff.1 dropped).symm⟩
    have same : d = c := by
      rcases List.prefix_or_prefix_of_prefix leads (List.prefix_append (text c) rest)
        with shorter | longer
      · exact eq_of_prefix_colors other known shorter
      · exact (eq_of_prefix_colors known other longer).symm
    subst same
    rw [Text.dropLead?_append] at dropped
    cases dropped
    rfl
  cases search : colors.findSome? fun d =>
      (Text.dropLead? (text d) (text c ++ rest)).map (text d, ·) with
  | none =>
      have missed := List.findSome?_eq_none_iff.1 search c known
      rw [Text.dropLead?_append] at missed
      cases missed
  | some found =>
      obtain ⟨d, other, equality⟩ := List.exists_of_findSome?_eq_some search
      rw [only d other found equality]

theorem dropMarker_mark {backspaces : Nat} {star : Bool} (blanks : gaps.Fit)
    {more : Text} (head : ∀ c ∈ more.head?, c ≠ .char '\x08' ∧ c ≠ .char '*') :
    dropMarker (markText gaps backspaces star ++ more) = more.trim := by
  have backs : ∀ c ∈ List.replicate backspaces (CodePoint.char '\x08'),
      decide (c = CodePoint.char '\x08') = true := by
    intro c member
    rw [List.eq_of_mem_replicate member]
    rfl
  rw [dropMarker, markText, List.append_assoc, List.dropWhile_append_of_pos backs]
  cases star with
  | false =>
      have stays : more.dropWhile (fun c => decide (c = CodePoint.char '\x08')) = more := by
        cases more with
        | nil => rfl
        | cons c more =>
            exact List.dropWhile_cons_of_neg (by simp [(head c rfl).1])
      have unmarked : Text.dropLead? (text "*") more = none := by
        rw [Option.eq_none_iff_forall_ne_some]
        intro rest found
        rw [Text.dropLead?_eq_some_iff] at found
        exact (head (.char '*') (by rw [found]; rfl)).2 rfl
      simp only [Bool.false_eq_true, if_false, List.nil_append, stays, unmarked,
        Option.getD_none]
  | true =>
      have stays : (text "*" ++ gaps.color ++ more).dropWhile
          (fun c => decide (c = CodePoint.char '\x08')) =
            text "*" ++ (gaps.color ++ more) := by
        rw [List.append_assoc]
        rfl
      simp only [if_true, stays, Text.dropLead?_append, Option.getD_some]
      exact Text.trim_append_of_void_left blanks.color.void more

/-- What stands after the flag: the nodes, and perhaps more. -/
theorem solid_body (gaps : Gaps) {extra : Option Text}
    (each : ∀ node ∈ names, NodeName node) (given : names ≠ []) (more : ∀ e ∈ extra, e.Solid) :
    (nodesText names ++ extraText gaps extra).Solid := by
  have front := solid_nodesText each given
  cases extra with
  | none => simpa only [extraText, List.append_nil] using front
  | some e => exact front.around _ (more e rfl)

theorem head?_nodesText_ne_dash (each : ∀ node ∈ names, NodeName node)
    (given : names ≠ []) (rest : Text) :
    (nodesText names ++ rest).head? ≠ some (.char '-') := by
  obtain ⟨node, others, rfl⟩ := List.exists_cons_of_ne_nil given
  have first := each node List.mem_cons_self
  have same : (nodesText (node :: others) ++ rest).head? = node.head? := by
    cases others with
    | nil => exact List.head?_append_of_ne_nil _ first.given
    | cons next others =>
        rw [nodesText, Text.joinWith, List.append_assoc, List.append_assoc]
        · exact List.head?_append_of_ne_nil _ first.given
        · exact List.cons_ne_nil next others
  rw [same]
  exact first.dash

theorem toNat_of_isAlpha {c : Char} (alpha : c.isAlpha = true) :
    0x41 ≤ c.toNat ∧ c.toNat ≤ 0x7A := by
  have ranges : (decide (c.val ≥ 65 ∧ c.val ≤ 90) ||
      decide (c.val ≥ 97) && decide (c.val ≤ 122)) = true := alpha
  simp only [Bool.or_eq_true, Bool.and_eq_true, decide_eq_true_eq,
    UInt32.le_iff_toNat_le, ge_iff_le] at ranges
  change (65 ≤ c.toNat ∧ c.toNat ≤ 90) ∨ (97 ≤ c.toNat ∧ c.toNat ≤ 122) at ranges
  omega

theorem isBlank_of_isAlpha {c : Char} (alpha : c.isAlpha = true) :
    (CodePoint.char c).isBlank = false := by
  obtain ⟨low, high⟩ := toNat_of_isAlpha alpha
  exact CodePoint.isBlank_of_visible (Nat.lt_of_lt_of_le (by decide) low)
    (Nat.lt_of_le_of_lt high (by decide))

theorem solid_flag {letter : Char} (alpha : letter.isAlpha = true) :
    (text "- " ++ [CodePoint.char letter]).Solid := by
  have dash : (text "-").Solid := Text.solid_of_nonblank (by decide) (by decide)
  have last : Text.Solid [CodePoint.char letter] := by
    apply Text.solid_of_nonblank (List.cons_ne_nil _ _)
    intro c member
    rw [List.mem_singleton.1 member]
    exact isBlank_of_isAlpha alpha
  exact dash.around (text " ") last

theorem dropFlag_flag {flag : Option Char} (letters : ∀ c ∈ flag, c.isAlpha = true)
    (blanks : gaps.Fit) {body : Text} (solid : body.Solid)
    (dash : body.head? ≠ some (.char '-')) :
    dropFlag (flagText gaps flag ++ (gaps.nodes ++ body)).trim = body := by
  cases flag with
  | none =>
      rw [flagText, List.nil_append, Text.trim_append_of_void_left blanks.nodes.void,
        solid.trim]
      unfold dropFlag
      split
      · exact absurd rfl dash
      · rfl
  | some letter =>
      have alpha := letters letter rfl
      have front := solid_flag alpha
      have whole : (flagText gaps (some letter) ++ (gaps.nodes ++ body)).trim =
          .char '-' :: .char ' ' :: .char letter :: (gaps.nodes ++ body) := by
        rw [flagText, List.append_assoc, Text.trim_append_of_void_left blanks.flag.void]
        exact (front.around gaps.nodes solid).trim
      rw [whole]
      simp only [dropFlag, if_pos alpha]
      rw [Text.trim_append_of_void_left blanks.nodes.void, solid.trim]

theorem not_mem_nodesText {c : CodePoint} (comma : c ≠ .char ',')
    (free : ∀ node ∈ names, c ∉ node) : c ∉ nodesText names := by
  intro member
  obtain same | ⟨node, known, inside⟩ := mem_nodesText member
  · exact comma same
  · exact free node known inside

theorem solid_marked {c : String} (known : c ∈ colors) (gaps : Gaps)
    (backspaces : Nat) (star : Bool) :
    (markText gaps backspaces star ++ text c).Solid := by
  have color := solid_color known
  have starred : (text "*").Solid := Text.solid_of_nonblank (by decide) (by decide)
  have backspace : (text "\x08").Solid := Text.solid_of_nonblank (by decide) (by decide)
  cases backspaces with
  | zero =>
      cases star with
      | false => exact color
      | true =>
          have whole := starred.around gaps.color color
          rwa [← List.append_assoc] at whole
  | succ count => exact backspace.around _ color

theorem head?_color {c : String} (known : c ∈ colors) (rest : Text) :
    ∀ x ∈ (text c ++ rest).head?, x ≠ .char '\x08' ∧ x ≠ .char '*' := by
  have each : ∀ c ∈ colors, ∀ x ∈ (text c).head?,
      x ≠ .char '\x08' ∧ x ≠ .char '*' := by decide
  intro x lead
  rw [List.head?_append_of_ne_nil _ (solid_color known).given] at lead
  exact each c known x lead

theorem cut?_body_none (each : ∀ node ∈ names, NodeName node) :
    Text.cut? tab (nodesText names ++ extraText gaps none) = none := by
  rw [extraText, List.append_nil]
  exact Text.cut?_single_eq_none
    (not_mem_nodesText (by decide) fun node known => (each node known).tab)

theorem cut?_body_some (each : ∀ node ∈ names, NodeName node) (blanks : gaps.Fit)
    (extra : Text) :
    Text.cut? tab (nodesText names ++ extraText gaps (some extra)) =
      some (nodesText names ++ gaps.border, gaps.extra ++ extra) := by
  have shape : nodesText names ++ extraText gaps (some extra) =
      (nodesText names ++ gaps.border) ++ .char '\t' :: (gaps.extra ++ extra) := by
    simp only [extraText, List.append_assoc]
    rfl
  have free : .char '\t' ∉ nodesText names ++ gaps.border := by
    rw [List.mem_append]
    rintro (inside | blank)
    · exact not_mem_nodesText (by decide) (fun node known => (each node known).tab) inside
    · exact blanks.border.tab blank
  rw [shape]
  exact Text.cut?_single free _

theorem colorNet_field {color : Text} {backspaces : Nat} {star : Bool}
    {flag : Option Char} {extra : Option Text}
    (fit : (Cells.color color backspaces star flag extra).Fit) (blanks : gaps.Fit)
    (each : ∀ node ∈ names, NodeName node) (given : names ≠ []) :
    colorNet ((Cells.color color backspaces star flag extra).field gaps names).trim =
      .ok (.color color extra, names) := by
  obtain ⟨⟨c, known, rfl⟩, letters, more⟩ := fit
  have solid := solid_body gaps each given fun e told => (more e told).1
  rw [Cells.field]
  generalize body : nodesText names ++ extraText gaps extra = tail
  have trimmed : (markText gaps backspaces star ++
      (text c ++ (flagText gaps flag ++ (gaps.nodes ++ tail)))).trim =
        markText gaps backspaces star ++
          (text c ++ (flagText gaps flag ++ (gaps.nodes ++ tail)).trimEnd) := by
    rw [← List.append_assoc, (solid_marked known gaps backspaces star).trim_append,
      List.append_assoc]
  have flagless : dropFlag (flagText gaps flag ++
      (gaps.nodes ++ tail)).trimEnd.trimEnd.trim = tail := by
    rw [Text.trim_trimEnd, Text.trim_trimEnd, ← body]
    exact dropFlag_flag letters blanks solid (head?_nodesText_ne_dash each given _)
  rw [trimmed, colorNet, dropMarker_mark blanks (head?_color known _),
    (solid_color known).trim_append, findSome?_color known]
  dsimp only
  rw [flagless, ← body]
  cases extra with
  | none =>
      rw [cut?_body_none each, extraText, List.append_nil]
      dsimp only
      rw [trim_nodesText each, nodes_nodesText each]
  | some e =>
      rw [cut?_body_some each blanks]
      dsimp only
      rw [Text.trim_append_of_void_left blanks.extra.void, (more e rfl).1.trim,
        Text.trim_append_of_void_right _ blanks.border.void, trim_nodesText each,
        nodes_nodesText each]

/-! A line. -/

variable {row : Row}

/-- What the last field of a row reads as. -/
theorem layout_field (fit : row.Fit) :
    (if row.cells.colored then colorNet else voltageNet) row.field.trim =
      .ok (row.cells.layout, row.nodes) := by
  obtain ⟨index, name, cells, names, gaps⟩ := row
  cases cells with
  | voltage v =>
      have plain : ¬ (Cells.voltage v).colored = true := Bool.false_ne_true
      rw [if_neg plain]
      exact voltageNet_field fit.cells fit.gaps fit.nodes
  | color c backspaces star flag extra =>
      have colored : (Cells.color c backspaces star flag extra).colored = true := rfl
      rw [if_pos colored]
      exact colorNet_field fit.cells fit.gaps fit.nodes (fit.given rfl)

theorem not_void_field (fit : row.Fit) : ¬ row.field.Void := by
  obtain ⟨index, name, cells, names, gaps⟩ := row
  intro void
  cases cells with
  | voltage v =>
      apply fit.cells.1.not_void
      intro c member
      apply void c
      rw [Row.field, Cells.field, List.append_assoc]
      exact List.mem_append_left _ member
  | color c backspaces star flag extra =>
      obtain ⟨d, known, rfl⟩ := fit.cells.1
      apply (solid_color known).not_void
      intro x member
      apply void x
      exact List.mem_append_right _ (List.mem_append_left _ member)

theorem trim_line (fit : row.Fit) :
    row.line.trim = Text.ofNat row.index ++ (tab ++ (row.gaps.name ++ row.name) ++
      tab ++ row.gaps.value ++ row.field.trimEnd) := by
  rw [Row.line, (Text.solid_ofNat row.index).trim_append,
    Text.trimEnd_append_of_not_void _ (not_void_field fit)]

theorem fields_line (fit : row.Fit) :
    fields row.line.trim = .ok (Text.ofNat row.index, row.gaps.name ++ row.name,
      row.gaps.value ++ row.field.trimEnd) := by
  have first : .char '\t' ∉ Text.ofNat row.index := Text.not_mem_ofNat _ (by decide)
  have second : .char '\t' ∉ row.gaps.name ++ row.name := by
    rw [List.mem_append]
    rintro (blank | inside)
    · exact fit.gaps.name.tab blank
    · exact fit.name_tab inside
  have shape : row.line.trim = Text.ofNat row.index ++ .char '\t' ::
      (row.gaps.name ++ row.name ++ .char '\t' ::
        (row.gaps.value ++ row.field.trimEnd)) := by
    rw [trim_line fit]
    simp only [tab, text, String.toList, List.append_assoc]
    rfl
  rw [shape, fields]
  simp only [show tab = [.char '\t'] from rfl, Text.cut?_single first,
    Text.cut?_single second]

theorem index?_ofNat {n : Nat} (few : n < 10 ^ mostDigits) :
    index? (Text.ofNat n) = some (.ok n) := by
  have given : decimals n ≠ [] := by simp [decimals]
  obtain ⟨d, ds, shape⟩ := List.exists_cons_of_ne_nil given
  have worth := ofDigits?_decimals few
  rw [shape] at worth
  rw [index?, takeSign_ofNat]
  dsimp only
  rw [mapM_asciiDigit?_ofNat, shape]
  dsimp only
  rw [worth]
  rfl

/-- A printed row is read as its net, after any row of a lower index. -/
theorem readLine_line (fit : row.Fit) {last : Int} (later : last < row.index) :
    readLine row.cells.colored last row.line.trim = .net row.net := by
  have few : row.index < 10 ^ mostDigits :=
    Nat.lt_of_lt_of_le (Nat.lt_of_le_of_lt fit.high (by decide : _ < 10 ^ 10))
      (Nat.pow_le_pow_right (by decide) (by decide))
  have inside : ¬ ((row.index : Int) < -2147483648 ∨ 2147483647 < (row.index : Int)) := by
    have := fit.high
    omega
  have name : (row.gaps.name ++ row.name).trim = row.name := by
    rw [Text.trim_append_of_void_left fit.gaps.name.void, fit.name.trim]
  have field : (row.gaps.value ++ row.field.trimEnd).trim = row.field.trim := by
    rw [Text.trim_append_of_void_left fit.gaps.value, Text.trim_trimEnd]
  rw [readLine, fields_line fit]
  dsimp only
  rw [(Text.solid_ofNat row.index).trim, index?_ofNat few]
  dsimp only
  rw [if_neg inside, if_neg (by omega), name, field, layout_field fit]
  rfl

theorem line_given (row : Row) (fit : row.Fit) : row.line.trim.isEmpty = false := by
  rw [trim_line fit]
  obtain ⟨c, rest, shape⟩ := List.exists_cons_of_ne_nil (Text.ofNat_ne_nil row.index)
  rw [shape]
  rfl

/-- A row begins with a digit, and no header does. -/
theorem line_no_header (fit : row.Fit) : row.line.trim.startsWith header = false := by
  rw [Bool.eq_false_iff]
  intro leads
  obtain ⟨rest, same⟩ := Text.startsWith_iff.1 leads
  rw [trim_line fit] at same
  obtain ⟨c, more, shape⟩ := List.exists_cons_of_ne_nil (Text.ofNat_ne_nil row.index)
  have digit := Text.digit_of_mem_ofNat (n := row.index) (c := c)
    (by rw [shape]; exact List.mem_cons_self)
  rw [shape] at same
  have lead : c = .char 'I' := (List.cons.inj same).1
  rw [lead] at digit
  exact absurd digit (by decide)

/-! The lines of a table. -/

theorem readLines_head {line : Text} {colored : Bool} (announces : Announces line colored)
    (now : Bool) (last : Int) (rest : List Text) :
    readLines now last (line :: rest) = readLines colored last rest := by
  have given : line.trim.isEmpty = false := by
    obtain ⟨more, same⟩ := Text.startsWith_iff.1 announces.leads
    rw [same]
    rfl
  simp only [readLines, given, announces.leads, announces.tells, Bool.false_eq_true,
    if_false, if_true]

theorem readLines_line (fit : row.Fit) {last : Int} (later : last < row.index)
    (rest : List Text) :
    readLines row.cells.colored last (row.line :: rest) =
      (readLines row.cells.colored row.index rest).map
        fun (nets, faults) => (row.net :: nets, faults) := by
  simp only [readLines, line_given row fit, line_no_header fit,
    readLine_line fit later, Bool.false_eq_true, if_false]
  rfl

theorem readLines_blank (now : Bool) (last : Int) :
    readLines now last [[]] = some ([], []) := rfl

variable {heads : Bool → Text}

/-- Reading may go on with the layout that the lines were begun for. -/
theorem readLines_lines (heads : Bool → Text) {rows : List Row}
    (fits : ∀ row ∈ rows, row.Fit)
    (announces : ∀ row ∈ rows, Announces (heads row.cells.colored) row.cells.colored)
    (rising : rows.Pairwise fun row next => row.index < next.index)
    (now : Option Bool) {reading : Bool} (same : ∀ colored ∈ now, reading = colored)
    {last : Int} (later : ∀ row ∈ rows, last < row.index) (rest : List Text)
    (blank : ∀ now last, readLines now last rest = some ([], [])) :
    readLines reading last (lines heads now rows ++ rest) =
      some (rows.map Row.net, []) := by
  induction rows generalizing now reading last with
  | nil => exact blank reading last
  | cons row rows ih =>
      obtain ⟨above, rising⟩ := List.pairwise_cons.1 rising
      have fit := fits row List.mem_cons_self
      have others := ih (fun other member => fits other (List.mem_cons_of_mem row member))
        (fun other member => announces other (List.mem_cons_of_mem row member))
        rising (some row.cells.colored) (fun colored told => Option.some.inj told)
        fun other member => Int.ofNat_lt.2 (above other member)
      have first := readLines_line fit (later row List.mem_cons_self)
        (lines heads (some row.cells.colored) rows ++ rest)
      rw [others, Option.map_some] at first
      rw [lines]
      split
      · next kept =>
          rw [same _ kept]
          exact first
      · rw [List.singleton_append, List.cons_append, List.cons_append,
          readLines_head (announces row List.mem_cons_self)]
        exact first

theorem line_not_mem_field (fit : row.Fit) : .char '\n' ∉ row.field := by
  obtain ⟨index, name, cells, names, gaps⟩ := row
  have blanks := fit.gaps
  have nodes : .char '\n' ∉ nodesText names :=
    not_mem_nodesText (by decide) fun node known => (fit.nodes node known).line
  cases cells with
  | voltage v =>
      have unit : .char '\n' ∉ text " V" := by decide
      exact List.not_mem_append (List.not_mem_append fit.cells.2.1 unit)
        (List.not_mem_append blanks.nodes.line nodes)
  | color c backspaces star flag extra =>
      obtain ⟨⟨d, known, rfl⟩, letters, more⟩ := fit.cells
      have mark : .char '\n' ∉ markText gaps backspaces star := by
        apply List.not_mem_append
        · intro member
          exact absurd (List.eq_of_mem_replicate member) (by decide)
        · cases star with
          | false => exact List.not_mem_nil
          | true => exact List.not_mem_append (by decide) blanks.color.line
      have color : .char '\n' ∉ text d := by
        have each : ∀ d ∈ colors, .char '\n' ∉ text d := by decide
        exact each d known
      have flagged : .char '\n' ∉ flagText gaps flag := by
        cases flag with
        | none => exact List.not_mem_nil
        | some letter =>
            refine List.not_mem_append blanks.flag.line
              (List.not_mem_append (by decide) ?_)
            intro member
            have alpha := letters letter rfl
            cases List.mem_singleton.1 member
            exact absurd alpha (by decide)
      have extra : .char '\n' ∉ extraText gaps extra := by
        cases extra with
        | none => exact List.not_mem_nil
        | some e =>
            exact List.not_mem_append (List.not_mem_append
              (List.not_mem_append blanks.border.line (by decide)) blanks.extra.line)
              (more e rfl).2
      exact List.not_mem_append mark (List.not_mem_append color
        (List.not_mem_append flagged (List.not_mem_append blanks.nodes.line
          (List.not_mem_append nodes extra))))

theorem line_not_mem_line (fit : row.Fit) : .char '\n' ∉ row.line := by
  have index : .char '\n' ∉ Text.ofNat row.index := Text.not_mem_ofNat _ (by decide)
  have name : .char '\n' ∉ row.gaps.name ++ row.name :=
    List.not_mem_append fit.gaps.name.line fit.name_line
  have border : .char '\n' ∉ tab := by decide
  exact List.not_mem_append index (List.not_mem_append (List.not_mem_append
    (List.not_mem_append (List.not_mem_append border name) border)
    fit.gaps.value_line) (line_not_mem_field fit))

theorem line_not_mem_lines {rows : List Row} (fits : ∀ row ∈ rows, row.Fit)
    (announces : ∀ row ∈ rows, Announces (heads row.cells.colored) row.cells.colored)
    (now : Option Bool) :
    ∀ line ∈ lines heads now rows, .char '\n' ∉ line := by
  induction rows generalizing now with
  | nil => exact fun line member => absurd member (List.not_mem_nil)
  | cons row rows ih =>
      intro line member
      rw [lines, List.mem_append, List.mem_cons] at member
      rcases member with heading | rfl | later
      · split at heading
        · exact absurd heading (List.not_mem_nil)
        · rw [List.mem_singleton.1 heading]
          exact (announces row List.mem_cons_self).line
      · exact line_not_mem_line (fits row List.mem_cons_self)
      · exact ih (fun other member => fits other (List.mem_cons_of_mem row member))
          (fun other member => announces other (List.mem_cons_of_mem row member))
          _ line later

/-- A printed table is read as the nets of its rows, whether or not it begins
with a header for voltages. -/
theorem read_print (announces : ∀ colored, Announces (heads colored) colored)
    (now : Option Bool) (start : now ≠ some true) {rows : List Row}
    (fits : ∀ row ∈ rows, row.Fit)
    (rising : rows.Pairwise fun row next => row.index < next.index) :
    read? (print heads now rows) = some (rows.map Row.net, []) := by
  have same : ∀ colored ∈ now, false = colored := by
    rintro colored rfl
    cases colored with
    | false => rfl
    | true => exact absurd rfl start
  have later : ∀ row ∈ rows, (0 : Int) < row.index := fun row member => by
    have := (fits row member).low
    omega
  have split : Text.splitAt (.char '\n') (print heads now rows) =
      lines heads now rows ++ [[]] :=
    Text.splitAt_ended (line_not_mem_lines fits (fun row _ => announces _) now)
  rw [read?, split]
  exact readLines_lines heads fits (fun row _ => announces _) rising now same later [[]]
    readLines_blank

def headings : Bool → Text
  | false => text "Index\tName\t\tVoltage\t    Nodes\t"
  | true => text "Index\tName\t\tColor\t    Nodes          ADC / GPIO"

def mixedRows : List Row := [
  { index := 1, name := text "GND", cells := .voltage (text "0"),
    nodes := [text "GND", text "9"] },
  { index := 4, name := text "DAC 0", cells := .voltage (text "- 3.33\tV"), nodes := [],
    gaps := { name := text " ", value := text "\t ", nodes := text "      " } },
  { index := 11, name := [], cells := .color (text "royal blue") 0 false none none,
    nodes := [text "red - f"] },
  { index := 2147483647, name := text "Index",
    cells := .color (text "red") 2 true (some 'f') (some (text "\x08-2.78 V\t*")),
    nodes := [text "GP_1", text "25"],
    gaps := { border := text "  ", extra := text "    " } },
  ]

theorem mixedRows_read :
    lines headings (some false) mixedRows = [
        text "1\tGND\t\t0 V   GND,9",
        text "4\t DAC 0\t\t - 3.33\tV V      ",
        text "Index\tName\t\tColor\t    Nodes          ADC / GPIO",
        text "11\t\t\troyal blue   red - f",
        text "2147483647\tIndex\t\t\x08\x08* red   - f   GP_1,25  \t    \x08-2.78 V\t*"] ∧
      read? (print headings (some false) mixedRows) = some (mixedRows.map Row.net, []) :=
  have announces : ∀ colored, Announces (headings colored) colored := by decide
  have fits : ∀ row ∈ mixedRows, row.Fit := by decide
  have rising : mixedRows.Pairwise fun row next => row.index < next.index := by decide
  ⟨by decide +kernel, read_print announces (some false) (by decide) fits rising⟩

end NetTable

end Breadboard
