import Breadboard.Proofs.Board.Channels
import Breadboard.Proofs.Pattern.Row
import Breadboard.Proofs.Reply.NetTable
import Breadboard.Proofs.Reply.Settings
import Breadboard.Proofs.Response.Tally
import Breadboard.Proofs.Response.Template
import Breadboard.Proofs.Text.Digit
import Breadboard.Response.Stock

/-! What the stock engine replies. Its rules tell the queries apart, and its
templates become lines with the voltages of the board in them. -/

namespace Breadboard

namespace Board

def volts (b : Board) (channel : Text) : Text :=
  fixedText 2 ((b.dacVoltage? channel).getD 0.0)

def reading (b : Board) (channel : Text) : Text := b.volts channel ++ text "V"

end Board

/-! What an engine replies. -/

namespace Act

theorem sends_ofText (m : Manner) {board : Board} {found : Option Match} {data s : Text}
    {weight : Int} {bytes : Bytes} (rendered : render found data = .ok s)
    (writes : Placeholder.bytes? board s = some bytes) :
    Sends (plan m board found (.ofText data weight)) bytes := by
  have sent := (sends_sendText m writes).append .nil
  rw [List.append_nil bytes] at sent
  rw [plan, Response.ofText, sendChunks, rendered]
  exact (sends_waiting m.delay m.jitter).append ((sends_waiting 0.0 0.0).append sent)

end Act

namespace Engine

theorem board_select (index : Nat) (e : Engine) : (e.select index).2.board = e.board := by
  rw [select]
  split
  · rfl
  · split <;> rfl

theorem board_respond (request : Text) (e : Engine) :
    (e.respond request).2.board = e.board := by
  rw [respond]
  split
  · rfl
  · next index r found _ =>
      have kept := board_select index e
      split
      · next selected =>
          rw [selected] at kept
          exact kept
      · next selected =>
          rw [selected] at kept
          exact kept

theorem board_deliver (o : Outlet) (plan : Option (List Act)) (e : Engine) :
    (e.deliver o plan).2.2.board = e.board := by
  cases plan with
  | none => rfl
  | some acts =>
      simp only [deliver]
      split <;> rfl

theorem board_undergo (e : Engine) (call : Call) :
    (e.undergo call).board = e.board.apply call.request := by
  have answered : (e.answer call.request).2.board = e.board.apply call.request :=
    board_respond call.request (e.apply call.request)
  rw [undergo]
  split
  · exact (board_deliver ..).trans answered
  · exact answered

theorem board_afterAll (e : Engine) (calls : List Call) :
    (e.afterAll calls).board = e.board.applyAll (calls.map Call.request) := by
  induction calls generalizing e with
  | nil => rfl
  | cons call rest ih =>
      have later := ih (e.undergo call)
      rw [board_undergo] at later
      exact later

/-- Whoever takes all that is offered reads this text. -/
def Replies (e : Engine) (request reply : Text) : Prop :=
  ∀ o : Outlet, o.Open →
    (e.handle o request).1 = .answered ∧
      Utf8.decodeReplacing (Outlet.written (e.handle o request).2.1) = reply

theorem replies_of_finds {ms : Mappings} (readable : ∀ m ∈ ms, m.Readable)
    {served : Nat → Nat} {e : Engine} (rules : e.rules = ms.rules served)
    {request data s reply : Text} {weight : Int} {i : Nat} {m : Mapping}
    {found : Option Match} (finds : Finds ms request i m found)
    (single : m.responses = [.ofText data weight])
    (rendered : Act.render found data = .ok s)
    (quiet : e.board.apply request = e.board)
    (becomes : Placeholder.Becomes e.board s reply)
    (characters : ∀ c ∈ reply, c.isLone = false) : e.Replies request reply := by
  intro o opened
  obtain ⟨bytes, encodes⟩ := Utf8.encode?_of_notLone characters
  have only : m.responses.length = 1 := by rw [single]; rfl
  have next : m.responses[served i % m.responses.length]? = some (.ofText data weight) := by
    rw [only, Nat.mod_one, single]
    rfl
  have plan := respond_turn (e := e.apply request) readable rules finds (.inr only) next
  have board : (e.apply request).board = e.board := quiet
  rw [board] at plan
  have sends : Act.Sends (Act.plan m.manner e.board found (.ofText data weight)) bytes := by
    apply Act.sends_ofText m.manner rendered
    rw [Placeholder.bytes?, becomes.resolves, Option.bind_some]
    exact encodes
  obtain ⟨events, dice, delivered, written⟩ :=
    deliver_sends sends opened (e.answer request).2
  have handled : e.handle o request =
      (.answered, events, { (e.answer request).2 with dice }) := by
    rw [← delivered, ← plan]
    rfl
  rw [handled, written]
  exact ⟨rfl, Utf8.decodeReplacing_encode? characters encodes⟩

end Engine

/-! The rules of the stock engine. -/

namespace Mappings

open Pattern

theorem match?_missed {m : Mapping} (literal : m.isPattern = false) {c : CodePoint}
    {request : Text} (asked : c ∈ m.request) (absent : c ∉ request) :
    m.match? request = none := by
  have apart : request.contains m.request = false := by
    rw [Bool.eq_false_iff]
    intro holds
    exact absent ((Text.contains_iff.1 holds).subset asked)
  rw [Mapping.match?, literal, apart]
  rfl

theorem match?_literal {m : Mapping} (literal : m.isPattern = false) :
    m.match? m.request = some none := by
  have holds : m.request.contains m.request = true :=
    Text.contains_iff.2 List.infix_rfl
  rw [Mapping.match?, literal, holds]
  rfl

def digit : Point := .oneOf ⟨false, [.cls .digit true], .exact, false⟩

theorem holds_digit (c : CodePoint) : digit.holds c = c.isDigit := by
  simp [digit, Point.holds, PointSet.holds, PointSet.folds, PointSet.itemHolds,
    PointClass.holds]

def dacQuery : Regex := ⟨enclosed (text ">dac_get(") digit (.char ')'), 1, false⟩

theorem read_dacQuery : Regex.read (text ">dac_get\\((\\d+)\\)") = .ok dacQuery := by
  have parts : (Regex.read (text ">dac_get\\((\\d+)\\)")).toOption.map
      (fun r => (r.pattern, r.groups, r.ascii)) =
        some (dacQuery.pattern, dacQuery.groups, dacQuery.ascii) := by decide +kernel
  cases read : Regex.read (text ">dac_get\\((\\d+)\\)") with
  | error fault =>
      rw [read] at parts
      cases parts
  | ok r =>
      rw [read] at parts
      obtain ⟨pattern, groups, ascii⟩ := r
      cases parts
      rfl

theorem match?_pattern {m : Mapping} (isPattern : m.isPattern = true) {r : Regex}
    (read : Regex.read m.request = .ok r) (request : Text) :
    m.match? request = (r.search? request).map some := by
  rw [Mapping.match?, isPattern, if_pos rfl, read]

theorem request_dac : (stock[2]).request = text ">dac_get\\((\\d+)\\)" := rfl

theorem match?_dac (request : Text) :
    (stock[2]).match? request = (dacQuery.search? request).map some :=
  match?_pattern rfl (by rw [request_dac, read_dacQuery]) request

theorem readable_stock : ∀ m ∈ stock, m.Readable := by
  intro m member isPattern
  simp only [stock, List.mem_cons, List.not_mem_nil, or_false] at member
  rcases member with rfl | rfl | rfl | rfl
  · cases isPattern
  · cases isPattern
  · exact ⟨dacQuery, read_dacQuery⟩
  · cases isPattern

theorem finds_of_take {ms : Mappings} {request : Text} {i : Nat} {m : Mapping}
    {found : Option Match} (place : ms[i]? = some m)
    (matched : m.match? request = some found)
    (before : ∀ other ∈ ms.take i, other.match? request = none) :
    Engine.Finds ms request i m found := by
  obtain ⟨inside, own⟩ := List.getElem?_eq_some_iff.1 place
  refine ⟨List.findIdx?_eq_some_iff_getElem.2 ⟨inside, ?_, ?_⟩, place, matched⟩
  · rw [own, matched]
    rfl
  · intro j earlier
    have member : ms[j] ∈ ms.take i :=
      List.mem_take_iff_getElem.2 ⟨j, by omega, rfl⟩
    rw [before _ member]
    exact Bool.false_ne_true

end Mappings

/-! The queries. -/

def query (n : Text) : Text := text ">dac_get(" ++ n ++ text ")"

section

variable {n : Text} (digits : ∀ c ∈ n, c.isDigit = true)

include digits

theorem not_mem_query {c : CodePoint} (lead : c ∉ text ">dac_get(")
    (other : c.isDigit = false) (stop : c ∉ text ")") : c ∉ query n :=
  List.not_mem_append (List.not_mem_append lead (not_mem_of_isDigit digits other)) stop

theorem quiet_query : Command.Quiet (query n) := by
  have absent : ∀ word ∈ Command.words, ∃ c ∈ text word, c ∉ text ">dac_get(" ∧
      c.isDigit = false ∧ c ∉ text ")" := by decide
  intro word known
  obtain ⟨c, inWord, lead, other, stop⟩ := absent word known
  exact ⟨c, inWord, not_mem_query digits lead other stop⟩

theorem search?_query (given : n ≠ []) :
    Mappings.dacQuery.search? (query n) = some ⟨query n, [some n]⟩ := by
  have all : ∀ c ∈ n, Mappings.digit.holds c = true := by
    intro c member
    rw [Mappings.holds_digit]
    exact digits c member
  have stop : Mappings.digit.holds (.char ')') = false := by
    rw [Mappings.holds_digit]
    decide
  have found := search?_enclosed (text ">dac_get(") [] given all stop false
  have shape : query n = text ">dac_get(" ++ (n ++ [.char ')']) := List.append_assoc ..
  rw [shape]
  exact found

theorem finds_query (given : n ≠ []) :
    Engine.Finds Mappings.stock (query n) 2 Mappings.stock[2]
      (some ⟨query n, [some n]⟩) := by
  apply Mappings.finds_of_take rfl
  · rw [Mappings.match?_dac, search?_query digits given]
    rfl
  · intro other member
    rw [show Mappings.stock.take 2 = [Mappings.stock[0], Mappings.stock[1]] from rfl,
      List.mem_cons, List.mem_singleton] at member
    rcases member with rfl | rfl
    · exact Mappings.match?_missed rfl (c := .char '?') (by decide)
        (not_mem_query digits (by decide) (by decide) (by decide))
    · exact Mappings.match?_missed rfl (c := .char '~') (by decide)
        (not_mem_query digits (by decide) (by decide) (by decide))

end

theorem finds_identity :
    Engine.Finds Mappings.stock (text "?") 0 Mappings.stock[0] none :=
  Mappings.finds_of_take rfl (Mappings.match?_literal rfl)
    (List.forall_mem_nil _)

theorem finds_settings :
    Engine.Finds Mappings.stock (text "~") 1 Mappings.stock[1] none := by
  have own : (Mappings.stock[1]).match? (text "~") = some none :=
    Mappings.match?_literal (m := Mappings.stock[1]) rfl
  apply Mappings.finds_of_take rfl own
  intro other member
  rw [List.mem_singleton.1 member]
  exact Mappings.match?_missed rfl (c := .char '?') (by decide) (by decide)

theorem finds_nets :
    Engine.Finds Mappings.stock (text ">print_nets()") 3 Mappings.stock[3] none := by
  have own : (Mappings.stock[3]).match? (text ">print_nets()") = some none :=
    Mappings.match?_literal (m := Mappings.stock[3]) rfl
  apply Mappings.finds_of_take rfl own
  intro other member
  rw [show Mappings.stock.take 3 =
      [Mappings.stock[0], Mappings.stock[1], Mappings.stock[2]] from rfl,
    List.mem_cons, List.mem_cons, List.mem_singleton] at member
  rcases member with rfl | rfl | rfl
  · exact Mappings.match?_missed rfl (c := .char '?') (by decide) (by decide)
  · exact Mappings.match?_missed rfl (c := .char '~') (by decide) (by decide)
  · rw [Mappings.match?_dac]
    have missed : Mappings.dacQuery.search? (text ">print_nets()") = none := by
      decide +kernel
    rw [missed]
    rfl

/-! The templates. -/

def voltageHole (channel : Text) : Text :=
  Placeholder.braced (text "dac_voltage" ++ text ":" ++ channel)

def valueHole (channel : Text) : Text :=
  Placeholder.braced (text "dac_value" ++ text ":" ++ channel)

def settingsLines (volts : Text → Text) : List Text :=
  (Mappings.settingsDump.take 14).map text ++ [
    Settings.entryLine (text "dacs") (text "dac0_voltage") (volts (text "0")),
    Settings.entryLine (text "dacs") (text "dac1_voltage") (volts (text "1")),
    Settings.entryLine (text "dacs") (text "top_rail_voltage") (volts (text "TOP_RAIL")),
    Settings.entryLine (text "dacs") (text "bottom_rail_voltage")
      (volts (text "BOTTOM_RAIL")),
    []]

theorem decode_settings : Literal.decode (Mappings.lines Mappings.settingsDump) =
    Envelope.ended (settingsLines voltageHole) := by
  decide +kernel

def netRow (index : Nat) (name gap : String) (v : Text) (blank node : String) :
    NetTable.Row where
  index := index
  name := text name
  cells := .voltage v
  nodes := [text node]
  gaps := { value := text gap, nodes := text blank }

theorem line_netRow (index : Nat) (name gap : String) (v : Text) (blank node : String) :
    (netRow index name gap v blank node).line =
      Text.ofNat index ++ (NetTable.tab ++ text name ++ NetTable.tab ++ text gap) ++
        (v ++ (text " V" ++ (text blank ++ text node))) := by
  simp only [NetTable.Row.line, NetTable.Row.field, NetTable.Cells.field, netRow,
    NetTable.nodesText, Text.joinWith, List.append_assoc, List.nil_append]

def netRows (volts : Text → Text) : List NetTable.Row := [
  netRow 1 "GND" "\t " (text "0") "         " "GND",
  netRow 2 "Top Rail" " " (volts (text "TOP_RAIL")) "      " "TOP_R",
  netRow 3 "Bottom Rail" " " (volts (text "BOTTOM_RAIL")) "      " "BOT_R",
  netRow 4 "DAC 0" "\t " (volts (text "0")) "      " "DAC_0",
  netRow 5 "DAC 1" "\t " (volts (text "1")) "      " "DAC_1"]

def netHeading : Text := text "Index\tName\t\tVoltage\t\tNodes"

def netLines (volts : Text → Text) : List Text :=
  netHeading :: (netRows volts).map NetTable.Row.line

def netEcho : Text := text "Python> >print_nets()"

theorem decode_nets : Literal.decode (Mappings.lines Mappings.netTable) =
    Envelope.ended (netEcho :: (netLines valueHole ++ [[]])) := by
  decide +kernel

def dacTemplate : Text :=
  text "Python> >dac_get(" ++ .char '$' :: (text "1)\r\n\x7b\x7bdac_voltage:" ++
    .char '$' :: text "1\x7d\x7d\r\n")

theorem decode_dac :
    Literal.decode (Mappings.lines ["Python> >dac_get($1)",
      "\x7b\x7bdac_voltage:$1\x7d\x7d"]) = dacTemplate := by
  decide +kernel

def dacEcho (n : Text) : Text := text "Python> >dac_get(" ++ n ++ text ")"

theorem expand_dacTemplate (n : Text) :
    Match.expand ⟨query n, [some n]⟩ dacTemplate =
      .ok (Envelope.ended [dacEcho n, voltageHole n]) := by
  generalize taken : Match.mk (query n) [some n] = m
  have group : (m.group? 1).getD [] = n := by rw [← taken]; rfl
  have filled {s rest out : Text} (found : TemplatePart.reference? s = some ([1], rest))
      (later : m.expand rest = .ok out) : m.expand (.char '$' :: s) = .ok (n ++ out) := by
    have number : ofDigits? [1] = .ok 1 := rfl
    rw [m.expand_reference found, later, number, ← group]
    rfl
  have stop : m.expand (text "\x7d\x7d\r\n") = .ok (text "\x7d\x7d\r\n") :=
    m.expand_of_free (by decide)
  have channel := filled (s := text "1\x7d\x7d\r\n") rfl stop
  have hole : m.expand (text ")\r\n\x7b\x7bdac_voltage:" ++
      .char '$' :: text "1\x7d\x7d\r\n") =
        .ok (text ")\r\n\x7b\x7bdac_voltage:" ++ (n ++ text "\x7d\x7d\r\n")) := by
    rw [m.expand_append (by decide), channel]
    rfl
  have echo := filled (s := text "1)\r\n\x7b\x7bdac_voltage:" ++
    .char '$' :: text "1\x7d\x7d\r\n") rfl hole
  have lines : text "Python> >dac_get(" ++
      (n ++ (text ")\r\n\x7b\x7bdac_voltage:" ++ (n ++ text "\x7d\x7d\r\n"))) =
        Envelope.ended [dacEcho n, voltageHole n] := by
    simp [Envelope.ended, Envelope.crlf, dacEcho, voltageHole, Placeholder.braced,
      Placeholder.opening, Placeholder.closing, text]
  rw [dacTemplate, ← lines, m.expand_append (by decide), echo]
  rfl

/-! What they become. -/

section

open Placeholder

variable (board : Board)

theorem becomes_reading {channel : Text} (given : channel ≠ [])
    (letters : ∀ c ∈ channel, c.isWord = true) :
    Becomes board (voltageHole channel) (board.reading channel) :=
  becomes_voltage board given letters

theorem becomes_entryLine {name key : Text} {s t : Text}
    (braceless : Braceless (Settings.entryLine name key []))
    (becomes : Becomes board s t) :
    Becomes board (Settings.entryLine name key s) (Settings.entryLine name key t) := by
  rw [Settings.entryLine_eq] at braceless
  rw [Settings.entryLine_eq, Settings.entryLine_eq]
  exact becomes.between braceless

theorem becomes_netRow {index : Nat} {name gap blank node : String} {s t : Text}
    (braceless : Braceless (netRow index name gap [] blank node).line)
    (becomes : Becomes board s t) :
    Becomes board (netRow index name gap s blank node).line
      (netRow index name gap t blank node).line := by
  rw [line_netRow] at braceless
  rw [line_netRow, line_netRow]
  exact becomes.between braceless

theorem becomes_settings :
    List.Forall₂ (Becomes board) (settingsLines voltageHole)
      (settingsLines board.reading) := by
  have entry {key : String} (channel : String) (given : text channel ≠ [])
      (letters : ∀ c ∈ text channel, c.isWord = true)
      (braceless : Braceless (Settings.entryLine (text "dacs") (text key) [])) :=
    becomes_entryLine board braceless (becomes_reading board given letters)
  apply List.rel_append
  · apply becomes_all
    decide
  · refine .cons (entry "0" ?_ ?_ ?_) (.cons (entry "1" ?_ ?_ ?_)
      (.cons (entry "TOP_RAIL" ?_ ?_ ?_) (.cons (entry "BOTTOM_RAIL" ?_ ?_ ?_)
        (.cons (Braceless.becomes ?_) .nil))))
    all_goals decide

theorem becomes_nets :
    List.Forall₂ (Becomes board) (netEcho :: (netLines valueHole ++ [[]]))
      (netEcho :: (netLines board.volts ++ [[]])) := by
  have row {index : Nat} {name gap node : String} (channel : String)
      (given : text channel ≠ []) (letters : ∀ c ∈ text channel, c.isWord = true)
      (braceless : Braceless (netRow index name gap [] "      " node).line) :=
    becomes_netRow board braceless (becomes_value board given letters)
  refine .cons (Braceless.becomes ?_) (.cons (Braceless.becomes ?_)
    (.cons (Braceless.becomes ?_) (.cons (row "TOP_RAIL" ?_ ?_ ?_)
      (.cons (row "BOTTOM_RAIL" ?_ ?_ ?_) (.cons (row "0" ?_ ?_ ?_)
        (.cons (row "1" ?_ ?_ ?_) (.cons (Braceless.becomes ?_) .nil)))))))
  all_goals decide

theorem becomes_dac {n : Text} (given : n ≠ []) (digits : ∀ c ∈ n, c.isDigit = true) :
    List.Forall₂ (Becomes board) [dacEcho n, voltageHole n]
      [dacEcho n, board.reading n] := by
  have letters : ∀ c ∈ n, c.isWord = true :=
    fun c member => CodePoint.isWord_of_isDigit (digits c member)
  have lead : Braceless (text "Python> >dac_get(") := by decide
  have echo : Braceless (dacEcho n) :=
    (lead.append (braceless_of_isWord letters)).append (by decide)
  exact .cons echo.becomes (.cons (becomes_reading board given letters) .nil)

end

end Breadboard
