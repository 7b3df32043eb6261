import Breadboard.Proofs.Serial.Search
import Breadboard.Proofs.Text.Utf8

/-! What a client hears in reply to a command: the text of all bytes up to the first
silence. How the bytes are cut into reads makes no difference to it, and so none to what
is found in it. -/

namespace Breadboard

theorem segments_of_length_le {size : Nat} {data : Bytes} (short : data.length ≤ size) :
    segments size data = [data] := by
  rw [segments, if_neg (by omega)]

namespace SerialPort

/-- Replies that fit into a read each are handed out as they are. -/
theorem drain_append {pieces : List Bytes}
    (sizes : ∀ piece ∈ pieces, piece ≠ [] ∧ piece.length ≤ readSize) (rest : List Bytes) :
    drain (pieces ++ rest) = (pieces ++ (drain rest).1, (drain rest).2) := by
  induction pieces with
  | nil => rfl
  | cons piece pieces ih =>
      obtain ⟨⟨given, short⟩, others⟩ := List.forall_mem_cons.1 sizes
      rw [List.cons_append, drain, ih others, segments_of_length_le short]
      · rfl
      · exact given

end SerialPort

namespace SerialClient

variable {c c' : SerialClient} {line line' : SerialLine} {p p' : SerialPort}
  {pieces pieces' later later' : List Bytes}

/-- A client on a line whose port hands out some pieces, each in one read, and then has
a read find nothing. Other replies may wait behind that. -/
structure Hears (c : SerialClient) (line : SerialLine) (p : SerialPort)
    (pieces later : List Bytes) : Prop where
  there : c.line = some line
  found : c.bus.find? line.port = some p
  works : p.resetFault = none ∧ p.writeFault = none
  sizes : ∀ piece ∈ pieces, piece ≠ [] ∧ piece.length ≤ SerialPort.readSize
  replies : p.replies = pieces ++ [] :: later ∨
    p.replies = pieces ∧ later = [] ∧ p.readFault = none

/-- The calls of a command, with a read for each piece and one that finds nothing. -/
def conversation (line : SerialLine) (command : Bytes) (wait : Wait) (pieces : List Bytes) :
    List SerialCall :=
  [.resetInput line, .resetOutput line, .write line command, .flush line, .patience line,
    .sleep wait] ++ pieces.map (.read line ·.length) ++ [.read line 0]

theorem Hears.talk (hears : Hears c line p pieces later) (command : Bytes) (wait : Wait) :
    c.bus.talk line command wait = (.ok pieces.flatten,
      (c.bus.setReplies line.port later).record (conversation line command wait pieces)) := by
  rw [SerialBus.talk, hears.found]
  dsimp only
  rw [hears.works.1, hears.works.2]
  rcases hears.replies with whole | ⟨whole, rfl, fine⟩
  · rw [whole, SerialPort.drain_append hears.sizes, SerialPort.drain, List.append_nil]
    rfl
  · have drained := SerialPort.drain_append hears.sizes []
    rw [List.append_nil, SerialPort.drain, List.append_nil] at drained
    rw [whole, drained, fine]
    rfl

theorem Hears.clear (hears : Hears c line p pieces later) :
    c.bus.clear line = (.ok (), c.bus.record [.resetInput line, .resetOutput line]) := by
  rw [SerialBus.clear, hears.found]
  dsimp only
  rw [hears.works.1]

/-- A command can be written if it has no lone surrogates. -/
theorem isSome_bytesOf? (command : Text) :
    (bytesOf? command).isSome = !command.any CodePoint.isLone := by
  rw [bytesOf?]
  cases lone : command.any CodePoint.isLone with
  | true => rfl
  | false =>
      rw [if_neg Bool.false_ne_true]
      obtain ⟨data, encoded⟩ := Utf8.encode?_of_notLone (by simpa using lone)
      rw [encoded]
      rfl

theorem Hears.raw_of_written (hears : Hears c line p pieces later) {command : Text}
    {data : Bytes} (written : bytesOf? command = some data) (wait : Wait) :
    c.raw command wait = (.ok (Utf8.decodeReplacing pieces.flatten), { c with
      bus := (c.bus.setReplies line.port later).record (conversation line data wait pieces) }) := by
  rw [SerialClient.raw, hears.there, written]
  dsimp only
  rw [hears.talk]

theorem Hears.raw_of_unwritten (hears : Hears c line p pieces later) {command : Text}
    (unwritten : bytesOf? command = none) (wait : Wait) :
    c.raw command wait = (.error .unencodable,
      { c with bus := c.bus.record [.resetInput line, .resetOutput line] }) := by
  rw [SerialClient.raw, hears.there, unwritten]
  dsimp only
  rw [hears.clear]

theorem Hears.raw_fst (hears : Hears c line p pieces later) (command : Text) (wait : Wait) :
    (c.raw command wait).1 = match bytesOf? command with
      | none => .error .unencodable
      | some _ => .ok (Utf8.decodeReplacing pieces.flatten) := by
  cases written : bytesOf? command with
  | none => rw [hears.raw_of_unwritten written]
  | some data => rw [hears.raw_of_written written]

/-- The reads of a command are the pieces and the first that finds nothing; the replies
behind it are left where they are. -/
theorem Hears.reads (hears : Hears c line p pieces later) (data : Bytes) (wait : Wait) :
    let bus := (c.bus.setReplies line.port later).record (conversation line data wait pieces)
    bus.calls = c.bus.calls ++ conversation line data wait pieces ∧
      bus.find? line.port = some { p with replies := later } := by
  refine ⟨rfl, (SerialBus.find?_setReplies line.port line.port later c.bus).trans ?_⟩
  rw [hears.found, Option.map_some, if_pos (SerialBus.name_of_find? hears.found)]

/-! What is made of a reply. -/

def netsOf (reply : Except CommandFault Text) :
    Except CommandFault (List Net × List NetTable.Fault) :=
  (unwrapped reply Envelope.unwrap).bind fun table =>
    match NetTable.read? table with
    | some found => .ok found
    | none => .error .endlessIndex

theorem execute_eq (command : Text) (wait : Wait) (c : SerialClient) :
    c.execute command wait = (unwrapped (c.raw (text ">" ++ command) wait).1 Envelope.unwrap,
      (c.raw (text ">" ++ command) wait).2) := rfl

theorem settings_eq (c : SerialClient) :
    c.settings = ((c.raw (text "~") settingsWait).1.map Settings.read,
      (c.raw (text "~") settingsWait).2) := rfl

theorem nets_eq (c : SerialClient) :
    c.nets = (netsOf (c.raw (text ">" ++ text "print_nets()") commandWait).1,
      (c.raw (text ">" ++ text "print_nets()") commandWait).2) := rfl

theorem voltage_eq (channel : DacChannel) (c : SerialClient) :
    let command := text ">dac_get(" ++ Text.ofNat channel.toNat ++ text ")"
    c.voltage channel = (unwrapped (c.raw command commandWait).1 Envelope.voltage,
      (c.raw command commandWait).2) := rfl

theorem Hears.probe (hears : Hears c line p pieces later) :
    let version := Firmware.version? (Utf8.decodeReplacing pieces.flatten)
    c.probe.1 = .ok version ∧ c.probe.2.version = version := by
  have written : bytesOf? (text "?") = some [63] := rfl
  rw [SerialClient.probe, hears.raw_of_written written]
  exact ⟨rfl, rfl⟩

/-- However some bytes are cut into reads, a command that can be written is told the text
of all of them, up to the first read that finds nothing, and what is made of it is the
same. -/
theorem told_alike (hears : Hears c line p pieces later)
    (hears' : Hears c' line' p' pieces' later') (same : pieces.flatten = pieces'.flatten) :
    (∀ (command : Text) (wait : Wait),
      if command.any CodePoint.isLone then
        c.raw command wait = (.error .unencodable,
          { c with bus := c.bus.record [.resetInput line, .resetOutput line] })
      else ∃ data last, bytesOf? command = some data ∧
        c.raw command wait = (.ok (Utf8.decodeReplacing pieces.flatten), last) ∧
        last.bus.calls = c.bus.calls ++ conversation line data wait pieces ∧
        last.bus.find? line.port = some { p with replies := later }) ∧
    (∀ command wait, (c.execute command wait).1 = (c'.execute command wait).1) ∧
    (c.probe.1 = c'.probe.1 ∧ c.probe.2.version = c'.probe.2.version) ∧
    c.settings.1 = c'.settings.1 ∧ c.nets.1 = c'.nets.1 ∧
    ∀ channel, (c.voltage channel).1 = (c'.voltage channel).1 := by
  have alike : ∀ command wait, (c.raw command wait).1 = (c'.raw command wait).1 := by
    intro command wait
    rw [hears.raw_fst, hears'.raw_fst, same]
  refine ⟨fun command wait => ?_, fun command wait => ?_, ?_, ?_, ?_, fun channel => ?_⟩
  · have fits := isSome_bytesOf? command
    split
    · next lone =>
        rw [lone, Bool.not_true, Option.isSome_eq_false_iff, Option.isNone_iff_eq_none] at fits
        exact hears.raw_of_unwritten fits wait
    · next fine =>
        rw [Bool.eq_false_iff.2 fine, Bool.not_false, Option.isSome_iff_exists] at fits
        obtain ⟨data, written⟩ := fits
        exact ⟨data, _, written, hears.raw_of_written written wait, hears.reads data wait⟩
  · rw [execute_eq, execute_eq, alike]
  · rw [hears.probe.1, hears.probe.2, hears'.probe.1, hears'.probe.2, same]
    exact ⟨rfl, rfl⟩
  · rw [settings_eq, settings_eq, alike]
  · rw [nets_eq, nets_eq, alike]
  · rw [voltage_eq, voltage_eq, alike]

/-- A client on the line of a port with some replies. -/
def listening (replies : List Bytes) : SerialClient where
  port := text "ttyACM0"
  baudRate := usualBaudRate
  line := some ⟨text "ttyACM0", 0⟩
  bus := { ports := [{ name := text "ttyACM0", replies }], opened := 1 }

def torn : List Bytes :=
  [[0x1B, 0x5B], [0x31, 0x6D, 0xE2], [0x82, 0xAC, 0x0D], [0x0A, 0xFF]]

theorem torn_alike :
    let c := listening (torn ++ [] :: [[0x41]])
    let c' := listening [torn.flatten]
    (c.raw (text "?") commandWait).1 = .ok (text "\x1b[1m€\r\n\uFFFD") ∧
      c.nets.1 = c'.nets.1 ∧ c.probe.1 = c'.probe.1 := by
  intro c c'
  have hears : Hears c ⟨text "ttyACM0", 0⟩
      { name := text "ttyACM0", replies := torn ++ [] :: [[0x41]] } torn [[0x41]] :=
    ⟨rfl, rfl, ⟨rfl, rfl⟩, by decide, .inl rfl⟩
  have hears' : Hears c' ⟨text "ttyACM0", 0⟩
      { name := text "ttyACM0", replies := [torn.flatten] } [torn.flatten] [] :=
    ⟨rfl, rfl, ⟨rfl, rfl⟩, by decide, .inr ⟨rfl, rfl, rfl⟩⟩
  obtain ⟨raw, _, probe, _, nets, _⟩ := told_alike hears hears' (by decide)
  have asked := raw (text "?") commandWait
  rw [if_neg (by decide)] at asked
  obtain ⟨_, _, _, told, _⟩ := asked
  have words : Utf8.decodeReplacing torn.flatten = text "\x1b[1m€\r\n\uFFFD" := by
    decide +kernel
  exact ⟨by rw [told, words], nets, probe.1⟩

end SerialClient

end Breadboard
