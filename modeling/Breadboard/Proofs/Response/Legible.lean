import Breadboard.Proofs.Response.Stock

/-! The replies of the stock engine and their readers. Whatever the engine has
been asked before, what is read from a reply is what the board holds. -/

namespace Breadboard

open Envelope

/-! Printed voltages. -/

namespace Board

variable {b : Board} {channel : Text}

theorem volts_ne_nil : b.volts channel ≠ [] :=
  (Placeholder.plain_volts _).nonempty

theorem mem_figures_of_mem_volts {c : CodePoint} (member : c ∈ b.volts channel) :
    c ∈ figures :=
  mem_figures_of_mem_fixedText member

theorem not_mem_volts {c : CodePoint} (other : c ∉ figures) : c ∉ b.volts channel :=
  fun member => other (mem_figures_of_mem_volts member)

theorem clean_volts : Clean (b.volts channel) := by
  have each : ∀ c ∈ figures, Inert c := by decide
  exact fun c member => each c (mem_figures_of_mem_volts member)

theorem solid_volts : (b.volts channel).Solid := by
  have each : ∀ c ∈ figures, c.isBlank = false := by decide
  apply Text.solid_of_nonblank volts_ne_nil
  exact fun c member => each c (mem_figures_of_mem_volts member)

theorem fit_volts : (NetTable.Cells.voltage (b.volts channel)).Fit := by
  refine ⟨solid_volts, not_mem_volts (by decide), fun found => ?_⟩
  have blank : CodePoint.char ' ' ∈ b.volts channel := found.subset List.mem_cons_self
  exact not_mem_volts (by decide) blank

theorem clean_reading : Clean (b.reading channel) :=
  clean_volts.append (by decide)

theorem solid_reading : (b.reading channel).Solid := by
  have unit : (text "V").Solid := Text.solid_of_nonblank (by decide) (by decide)
  exact solid_volts.around [] unit

end Board

/-! The lines of the replies. -/

section

variable (board : Board)

theorem clean_settings : ∀ line ∈ settingsLines board.reading, Clean line := by
  have entry {key : String} (channel : Text)
      (around : Clean (Settings.entryLine (text "dacs") (text key) [])) :
      Clean (Settings.entryLine (text "dacs") (text key) (board.reading channel)) := by
    rw [Settings.entryLine_eq] at around
    rw [Settings.entryLine_eq]
    exact around.between Board.clean_reading
  have fixed : ∀ line ∈ (Mappings.settingsDump.take 14).map text, Clean line := by
    decide
  rw [settingsLines, List.forall_mem_append]
  refine ⟨fixed, ?_⟩
  simp only [List.forall_mem_cons]
  refine ⟨entry _ ?_, entry _ ?_, entry _ ?_, entry _ ?_, ?_⟩
  all_goals decide

theorem clean_nets :
    ∀ line ∈ netEcho :: (netLines board.volts ++ [[]]), Clean line := by
  have row {index : Nat} {name gap node : String} (channel : Text)
      (around : Clean (netRow index name gap [] "      " node).line) :
      Clean (netRow index name gap (board.volts channel) "      " node).line := by
    rw [line_netRow] at around
    rw [line_netRow]
    exact around.between Board.clean_volts
  simp only [netLines, netRows, List.map_cons, List.map_nil, List.cons_append,
    List.nil_append, List.forall_mem_cons]
  refine ⟨?_, ?_, ?_, row _ ?_, row _ ?_, row _ ?_, row _ ?_, ?_⟩
  all_goals decide

theorem clean_dac {n : Text} (digits : ∀ c ∈ n, c.isDigit = true) :
    ∀ line ∈ [dacEcho n, board.reading n], Clean line := by
  have number : Clean n := by
    have turn := not_mem_of_isDigit digits (c := .char '\r') (by decide)
    have feed := not_mem_of_isDigit digits (c := .char '\n') (by decide)
    have escape := not_mem_of_isDigit digits (c := Ansi.escape) (by decide)
    exact fun c member => ⟨CodePoint.isLone_of_isDigit (digits c member),
      fun same => turn (same ▸ member), fun same => feed (same ▸ member),
      fun same => escape (same ▸ member)⟩
  have lead : Clean (text "Python> >dac_get(") := by decide
  have echo : Clean (dacEcho n) := (lead.append number).append (by decide)
  simp only [List.forall_mem_cons]
  exact ⟨echo, Board.clean_reading, List.forall_mem_nil _⟩

end

/-! What is read from them. -/

section

variable (board : Board)

theorem voltage_dac {n : Text} (digits : ∀ c ∈ n, c.isDigit = true) :
    Envelope.voltage (ended [dacEcho n, board.reading n]) = .ok (board.reading n) := by
  have echo : isOutput (dacEcho n).trim = false := by
    have lead : (text "Python> >dac_get(").Solid := by decide
    have stop : (text ")").Solid := by decide
    have solid : (dacEcho n).Solid := by
      have whole := lead.around n stop
      rwa [← List.append_assoc] at whole
    have leads : (dacEcho n).startsWith prompt = true :=
      Text.startsWith_iff.2 ⟨text " >dac_get(" ++ n ++ text ")", rfl⟩
    rw [solid.trim, isOutput, leads]
    exact Bool.and_false _
  have noPrompt : CodePoint.char 'P' ∉ board.reading n :=
    List.not_mem_append (Board.not_mem_volts (by decide)) (by decide)
  have out : ∀ line ∈ [board.reading n], line.trim = line ∧ isOutput line = true := by
    intro line member
    rw [List.mem_singleton.1 member]
    refine ⟨Board.solid_reading.trim, isOutput_of_head? Board.solid_reading.given ?_⟩
    exact fun head => noPrompt (List.mem_of_head? head)
  have unwrapped : unwrap (ended [dacEcho n, board.reading n]) = .ok (board.reading n) :=
    unwrap_ended [board.reading n] [] (clean_dac board digits) echo out
      (List.forall_mem_nil _) (List.cons_ne_nil _ _)
  exact voltage_of_unwrap unwrapped Board.solid_reading.trim

def fixedSettings : Settings := [
  ⟨text "config", [(text "firmware_version", text "5.2.2.0")]⟩,
  ⟨text "hardware", [(text "generation", text "5"), (text "revision", text "5"),
    (text "probe_revision", text "5")]⟩]

def dacSection : Section := ⟨text "dacs", [
  (text "dac0_voltage", board.reading (text "0")),
  (text "dac1_voltage", board.reading (text "1")),
  (text "top_rail_voltage", board.reading (text "TOP_RAIL")),
  (text "bottom_rail_voltage", board.reading (text "BOTTOM_RAIL"))]⟩

theorem read_settings : Settings.read (ended (settingsLines board.reading)) =
    (fixedSettings ++ [dacSection board], []) := by
  have front : Settings.readLines [] (((Mappings.settingsDump.take 14).map text).map
      (· ++ text "\r")) = (fixedSettings, []) := by decide +kernel
  have turn : (text "\r").Void := by decide
  have entry {key : String} (channel : String)
      (trimmed : (text key).Trimmed) (unmarked : .char '=' ∉ text key) :
      Settings.Entry (text "dacs") (text key) (board.reading (text channel)) :=
    ⟨by decide, trimmed, unmarked, Board.solid_reading.head⟩
  rw [Settings.read_ended (clean_settings board), settingsLines, List.map_append,
    List.append_assoc, Settings.readLines_append, front]
  simp only [List.map_cons, List.map_nil, List.cons_append, List.nil_append]
  rw [Settings.readLines_cons (Settings.readLine_entryLine
      (entry "0" (by decide) (by decide)) turn _),
    Settings.readLines_cons (Settings.readLine_entryLine
      (entry "1" (by decide) (by decide)) turn _),
    Settings.readLines_cons (Settings.readLine_entryLine
      (entry "TOP_RAIL" (by decide) (by decide)) turn _),
    Settings.readLines_cons (Settings.readLine_entryLine
      (entry "BOTTOM_RAIL" (by decide) (by decide)) turn _)]
  rfl

theorem out_netRow {index : Nat} {name gap blank node : String} (v : Text)
    (solid : (text node).Solid) :
    (netRow index name gap v blank node).line.trim =
        (netRow index name gap v blank node).line ∧
      isOutput (netRow index name gap v blank node).line = true := by
  have number := Text.solid_ofNat index
  have digit : ∀ c ∈ (Text.ofNat index).head?, c ≠ .char 'P' := by
    rintro c lead rfl
    have range := Text.digit_of_mem_ofNat (List.mem_of_head? lead)
    exact absurd range (by decide)
  have whole := number.around (NetTable.tab ++ text name ++ NetTable.tab ++ text gap ++
    (v ++ (text " V" ++ text blank))) solid
  rw [line_netRow]
  simp only [List.append_assoc] at whole ⊢
  refine ⟨whole.trim, isOutput_of_head? whole.given fun head => ?_⟩
  rw [List.head?_append_of_ne_nil _ number.given] at head
  exact digit _ head rfl

theorem unwrap_nets : unwrap (ended (netEcho :: (netLines board.volts ++ [[]]))) =
    .ok (Text.joinWith (text "\n") (netLines board.volts)) := by
  have heading : netHeading.trim = netHeading ∧ isOutput netHeading = true := by decide
  apply unwrap_ended (netLines board.volts) [[]] (clean_nets board)
  · decide
  · simp only [netLines, netRows, List.map_cons, List.map_nil, List.forall_mem_cons]
    refine ⟨heading, out_netRow _ ?_, out_netRow _ ?_, out_netRow _ ?_, out_netRow _ ?_,
      out_netRow _ ?_, List.forall_mem_nil _⟩
    all_goals decide
  · exact fun line member => List.mem_singleton.1 member
  · exact List.cons_ne_nil _ _

theorem fit_netRow {index : Nat} {name gap blank node : String} {v : Text}
    (around : (netRow index name gap (text "0") blank node).Fit)
    (own : (NetTable.Cells.voltage v).Fit) : (netRow index name gap v blank node).Fit where
  low := around.low
  high := around.high
  name := around.name
  name_tab := around.name_tab
  name_line := around.name_line
  cells := own
  nodes := around.nodes
  given colored := absurd colored Bool.false_ne_true
  gaps := around.gaps

theorem fit_nets : ∀ row ∈ netRows board.volts, row.Fit := by
  simp only [netRows, List.forall_mem_cons]
  refine ⟨?_, fit_netRow ?_ Board.fit_volts, fit_netRow ?_ Board.fit_volts,
    fit_netRow ?_ Board.fit_volts, fit_netRow ?_ Board.fit_volts,
    List.forall_mem_nil _⟩
  all_goals decide

theorem read_nets : NetTable.read? (Text.joinWith (text "\n") (netLines board.volts)) =
    some ((netRows board.volts).map NetTable.Row.net, []) := by
  have fits := fit_nets board
  have plain : ∀ row ∈ netRows board.volts, row.cells.colored = false := by
    simp only [netRows, List.forall_mem_cons]
    exact ⟨rfl, rfl, rfl, rfl, rfl, List.forall_mem_nil _⟩
  have heading : NetTable.Announces netHeading false := by decide
  have announces : ∀ row ∈ netRows board.volts,
      NetTable.Announces netHeading row.cells.colored := by
    intro row member
    rw [plain row member]
    exact heading
  have rising : (netRows board.volts).Pairwise fun row next => row.index < next.index :=
    List.pairwise_map.1 (by decide : [1, 2, 3, 4, 5].Pairwise (· < ·))
  have later : ∀ row ∈ netRows board.volts, (0 : Int) < row.index := by
    intro row member
    have := (fits row member).low
    omega
  have free : ∀ line ∈ netLines board.volts, .char '\n' ∉ line := by
    intro line member
    rcases List.mem_cons.1 member with rfl | printed
    · exact heading.line
    · obtain ⟨row, known, rfl⟩ := List.mem_map.1 printed
      exact NetTable.line_not_mem_line (fits row known)
  have split : Text.splitAt (.char '\n') (Text.joinWith (text "\n") (netLines board.volts)) =
      netLines board.volts :=
    Text.splitAt_joinWith (List.cons_ne_nil _ _) free
  have lines : netLines board.volts =
      NetTable.lines (fun _ => netHeading) none (netRows board.volts) ++ [] := rfl
  rw [NetTable.read?, split, lines]
  exact NetTable.readLines_lines (fun _ => netHeading) fits announces rising none
    (fun colored told => absurd told (Option.not_mem_none colored)) later []
    fun _ _ => rfl

end

/-! The replies. -/

namespace Engine

variable {e : Engine} {served : Nat → Nat}
  (rules : e.rules = Mappings.stock.rules served)

include rules

theorem replies_identity :
    e.Replies (text "?") (text "Jumperless firmware version: 5.2.2.0\r\n") := by
  have decoded : Literal.decode
      (Mappings.lines ["Jumperless firmware version: 5.2.2.0"]) =
        text "Jumperless firmware version: 5.2.2.0\r\n" := by decide +kernel
  have braceless : Placeholder.Braceless
      (text "Jumperless firmware version: 5.2.2.0\r\n") := by decide
  apply replies_of_finds Mappings.readable_stock rules finds_identity rfl
  · rw [Act.render, decoded]
  · exact Board.apply_of_quiet (by decide) e.board
  · exact braceless.becomes
  · decide

theorem replies_settings :
    e.Replies (text "~") (ended (settingsLines e.board.reading)) := by
  apply replies_of_finds Mappings.readable_stock rules finds_settings rfl
  · rw [Act.render, decode_settings]
  · exact Board.apply_of_quiet (by decide) e.board
  · exact .ended (becomes_settings e.board)
  · exact isLone_of_mem_ended (clean_settings e.board)

theorem replies_nets :
    e.Replies (text ">print_nets()")
      (ended (netEcho :: (netLines e.board.volts ++ [[]]))) := by
  apply replies_of_finds Mappings.readable_stock rules finds_nets rfl
  · rw [Act.render, decode_nets]
  · exact Board.apply_of_quiet (by decide) e.board
  · exact .ended (becomes_nets e.board)
  · exact isLone_of_mem_ended (clean_nets e.board)

theorem replies_dac {n : Text} (given : n ≠ []) (digits : ∀ c ∈ n, c.isDigit = true) :
    e.Replies (query n) (ended [dacEcho n, e.board.reading n]) := by
  apply replies_of_finds Mappings.readable_stock rules (finds_query digits given) rfl
  · rw [Act.render, decode_dac]
    exact expand_dacTemplate n
  · exact Board.apply_of_quiet (quiet_query digits) e.board
  · exact .ended (becomes_dac e.board given digits)
  · exact isLone_of_mem_ended (clean_dac e.board digits)

omit rules

/-- What is read from the replies of an engine is what its board holds. -/
structure Legible (e : Engine) : Prop where
  dac : ∀ n, n ≠ [] → (∀ c ∈ n, c.isDigit = true) → ∃ reply,
    e.Replies (query n) reply ∧ Envelope.voltage reply = .ok (e.board.reading n)
  missing : ∀ channel, e.board.dacVoltage? channel = none →
    e.board.reading channel = text "0.00V"
  rails : e.board.dacVoltage? (text "2") = e.board.dac.get? (text "TOP_RAIL") ∧
    e.board.dacVoltage? (text "3") = e.board.dac.get? (text "BOTTOM_RAIL")
  present : ∀ channel ∈ Board.channels, ∃ v, e.board.dac.get? (text channel) = some v ∧
    e.board.reading (text channel) = fixedText 2 v ++ text "V"
  settings : ∃ reply found, e.Replies (text "~") reply ∧
    Settings.read reply = (found, []) ∧
    found.find? (text "dacs") = some (dacSection e.board)
  nets : ∃ reply table nets, e.Replies (text ">print_nets()") reply ∧
    unwrap reply = .ok table ∧ NetTable.read? table = some (nets, []) ∧
    nets.map Net.index = [1, 2, 3, 4, 5] ∧
    nets.map Net.voltage? = [some (text "0V"),
      some (e.board.reading (text "TOP_RAIL")),
      some (e.board.reading (text "BOTTOM_RAIL")),
      some (e.board.reading (text "0")), some (e.board.reading (text "1"))]
  firmware : ∃ reply, e.Replies (text "?") reply ∧
    Firmware.version? reply = some (text "5.2.2.0")

theorem legible_of_rules (rules : e.rules = Mappings.stock.rules served)
    (wired : e.board.Wired) : e.Legible where
  dac n given digits :=
    ⟨_, replies_dac rules given digits, voltage_dac e.board digits⟩
  missing channel absent := by
    have nothing : fixedText 2 0.0 ++ text "V" = text "0.00V" := by decide +kernel
    rw [Board.reading, Board.volts, absent]
    exact nothing
  rails := ⟨Board.dacVoltage?_number wired rfl, Board.dacVoltage?_number wired rfl⟩
  present channel known := by
    have has := wired.present channel known
    obtain ⟨v, found⟩ := Option.isSome_iff_exists.1 has
    refine ⟨v, found, ?_⟩
    rw [Board.reading, Board.volts, Board.dacVoltage?_of_has has, found]
    rfl
  settings := ⟨_, _, replies_settings rules, read_settings e.board, rfl⟩
  nets := ⟨_, _, _, replies_nets rules, unwrap_nets e.board, read_nets e.board, rfl, rfl⟩
  firmware := ⟨_, replies_identity rules, by decide +kernel⟩

/-- A stock engine stays legible, whatever it is asked and however that is
delivered. -/
theorem legible_afterAll (dice : Dice) :
    ∃ e, ofMappings Mappings.stock Board.stock dice = .ok e ∧
      ∀ calls : List Call, (e.afterAll calls).Legible := by
  have rules := Rule.all_of_readable Mappings.readable_stock 0
  refine ⟨⟨Mappings.stock.rules fun _ => 0, Board.stock, dice⟩, ?_, fun calls => ?_⟩
  · rw [ofMappings, rules]
    rfl
  · have wired := Board.wired_stock.applyAll (calls.map Call.request)
    rw [← board_afterAll ⟨_, Board.stock, dice⟩ calls] at wired
    exact legible_of_rules (rules_afterAll Mappings.readable_stock rfl calls) wired

/-- A rail by its number, a new channel with a foreign digit, and queries of
which one is cut short. -/
def adjusted : List Call := [⟨text "set_dac(2, -7.5)", .outlet .all⟩,
  ⟨text "~ >dac_get(0)", .outlet (.most 5)⟩, ⟨text "set_dac(٧, 0.125)", .outlet .mute⟩,
  ⟨text "set_dac(3, nan) >print_nets()", .broken (.ofList [])⟩]

theorem adjusted_legible : ∃ e,
    ofMappings Mappings.stock Board.stock (.ofList []) = .ok e ∧
      ∀ asked ∈ [("2", "-7.50V"), ("3", "3.50V"), ("٧", "0.12V"), ("9", "0.00V")],
        ∃ reply, (e.afterAll adjusted).Replies (query (text asked.1)) reply ∧
          Envelope.voltage reply = .ok (text asked.2) := by
  obtain ⟨e, made, legible⟩ := legible_afterAll (.ofList [])
  refine ⟨e, made, ?_⟩
  have board : e.board = Board.stock := by
    rw [ofMappings, Rule.all_of_readable Mappings.readable_stock 0] at made
    cases made
    rfl
  have each : ∀ asked ∈ [("2", "-7.50V"), ("3", "3.50V"), ("٧", "0.12V"), ("9", "0.00V")],
      text asked.1 ≠ [] ∧ (∀ c ∈ text asked.1, c.isDigit = true) ∧
        (Board.stock.applyAll (adjusted.map Call.request)).reading (text asked.1) =
          text asked.2 := by decide +kernel
  intro asked member
  obtain ⟨given, digits, reading⟩ := each asked member
  obtain ⟨reply, replies, voltage⟩ := (legible adjusted).dac _ given digits
  rw [board_afterAll, board, reading] at voltage
  exact ⟨reply, replies, voltage⟩

end Engine

end Breadboard
