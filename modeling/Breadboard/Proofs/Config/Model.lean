import Breadboard.Proofs.Config.Tables

/-! What an accepted configuration has of the data model. Whatever the data, no
two connections join the same nodes. The rest is as the data gives it: a setting
out of its range or with another word is kept, as the changes to a running board
would not. -/

namespace Breadboard

structure Pin.Worded (p : Pin) : Prop where
  direction : p.direction = text "input" ∨ p.direction = text "output"
  pull : p.pull = text "none" ∨ p.pull = text "up" ∨ p.pull = text "down"

namespace Config

structure Proper (c : Config) : Prop where
  port : ∀ v, c.port = some v → ∃ name, v = .text name
  bufferSize : 1 ≤ c.bufferSize
  baudRate : 1 ≤ c.baudRate
  board : c.board.Sound
  pins : ∀ name p, c.board.pins.get? name = some p → p.Worded

/-- A setting of a table that has no place in the data model: a port that is no
text, a size or a rate below one, a voltage or a pin that the board cannot have. -/
inductive Astray (t : Table) : Prop
  | port {serial : Table} (line : section? t "serial" = .ok serial)
      (given : (serialSetting t serial "virtual_port" "port" .null).isGiven = true)
      (other : ∀ name, serialSetting t serial "virtual_port" "port" .null ≠ .text name)
  | bufferSize {serial : Table} {n : Int} (line : section? t "serial" = .ok serial)
      (reads : integer (serialSetting t serial "buffer_size" "buffer_size" (.int 1024)) = .ok n)
      (low : n < 1)
  | baudRate {serial : Table} {n : Int} (line : section? t "serial" = .ok serial)
      (reads : integer (serialSetting t serial "baud_rate" "baud_rate" (.int 115200)) = .ok n)
      (low : n < 1)
  | volts {data outputs e : Table} {channel : Text} {v : Float}
      (board : boardTable t = .ok data) (inside : section? data "dac_channels" = .ok outputs)
      (member : (channel, .table e) ∈ outputs) (reads : Reading.volts e = .ok v)
      (beyond : ¬ Board.Volts v)
  | pin {data pins e : Table} {name : Text} {p : Pin}
      (board : boardTable t = .ok data) (inside : section? data "gpio_pins" = .ok pins)
      (member : (name, .table e) ∈ pins) (reads : Reading.pin e = .ok p)
      (other : ¬ ((p.value = 0 ∨ p.value = 1) ∧ p.Worded))

theorem proper_stock : stock.Proper where
  port := nofun
  bufferSize := by decide
  baudRate := by decide
  board := Board.sound_stock
  pins := by
    have all : ∀ e ∈ Board.stock.pins, e.2.direction = text "input" ∧ e.2.pull = text "none" := by
      decide
    intro name p found
    obtain ⟨direction, pull⟩ := all (name, p) (Dict.mem_of_get? found)
    exact ⟨.inl direction, .inl pull⟩

variable {t : Table} {c : Config}

/-- What is put under a key of a table in its common spelling is what the entry
there is read as. -/
theorem Reading.get?_of_mem {α : Type} {read : Text → Table → Reading α} {d d' : Dict α}
    (common : Key.Normal (.table t)) (done : putAll read t d = .ok d') {k : Text} {e : Table}
    {a : α} (member : (k, .table e) ∈ t) (reads : read k e = .ok a) : d'.get? k = some a := by
  rcases get?_of_putAll done k with ⟨e', a', member', reads', found⟩ | ⟨absent, _⟩
  · cases Dict.eq_of_mem common.nodup member member'
    rw [reads] at reads'
    cases reads'
    exact found
  · exact absurd (Dict.mem_keys.2 ⟨_, member⟩) absent

theorem Astray.not_proper (astray : Astray t) (common : Key.Normal (.table t))
    (reads : Reads t c) : ¬ c.Proper := by
  intro proper
  obtain ⟨serial, line, port, buffer, baud⟩ := reads.line
  obtain ⟨data, board, made⟩ := reads.board
  have tables := Reading.over_of_boardOver made
  have commonData := normal_boardTable common board
  cases astray with
  | port line' given other =>
      rw [line] at line'
      cases line'
      obtain ⟨name, same⟩ := proper.port _ (port.trans (if_pos given))
      exact other name same
  | bufferSize line' reads' low =>
      rw [line] at line'
      cases line'
      rw [buffer] at reads'
      cases reads'
      exact absurd proper.bufferSize (by omega)
  | baudRate line' reads' low =>
      rw [line] at line'
      cases line'
      rw [baud] at reads'
      cases reads'
      exact absurd proper.baudRate (by omega)
  | volts board' inside member value beyond =>
      rw [board] at board'
      cases board'
      obtain ⟨outputs, inside', done⟩ := tables.dac
      rw [inside] at inside'
      cases inside'
      exact beyond (proper.board.volts _ _
        (Reading.get?_of_mem (commonData.inSection inside) done member value))
  | pin board' inside member value other =>
      rw [board] at board'
      cases board'
      obtain ⟨pins, inside', done⟩ := tables.pins
      rw [inside] at inside'
      cases inside'
      have found := Reading.get?_of_mem (commonData.inSection inside) done member value
      exact other ⟨proper.board.pins _ _ found, proper.pins _ _ found⟩

theorem proper_of_not_astray (reads : Reads t c) (kept : ¬ Astray t) : c.Proper := by
  obtain ⟨serial, line, port, buffer, baud⟩ := reads.line
  obtain ⟨data, board, made⟩ := reads.board
  have tables := Reading.over_of_boardOver made
  have pins : ∀ name p, c.board.pins.get? name = some p →
      (p.value = 0 ∨ p.value = 1) ∧ p.Worded := by
    intro name p found
    obtain ⟨s, inside, done⟩ := tables.pins
    -- a pin is read from an entry of the data, or is as on the stock board
    rcases Reading.get?_of_putAll done name with ⟨e, a, member, value, put⟩ | ⟨_, old⟩
    · rw [found] at put
      cases put
      by_contra other
      exact kept (.pin board inside member value other)
    · rw [found] at old
      exact ⟨Board.sound_stock.pins name p old.symm, proper_stock.pins name p old.symm⟩
  constructor
  · intro v chosen
    by_contra other
    rw [port] at chosen
    dsimp only at chosen
    split at chosen
    · next given =>
        cases chosen
        exact kept (.port line given fun name same => other ⟨name, same⟩)
    · cases chosen
  · by_contra low
    exact kept (.bufferSize line buffer (by omega))
  · by_contra low
    exact kept (.baudRate line baud (by omega))
  · refine ⟨fun channel v found => ?_, fun name p found => (pins name p found).1,
      tables.apart List.nodup_nil⟩
    obtain ⟨s, inside, done⟩ := tables.dac
    rcases Reading.get?_of_putAll done channel with ⟨e, a, member, value, put⟩ | ⟨_, old⟩
    · rw [found] at put
      cases put
      by_contra beyond
      exact kept (.volts board inside member value beyond)
    · rw [found] at old
      exact Board.sound_stock.volts channel v old.symm
  · exact fun name p found => (pins name p found).2

/-- A configuration that is accepted has each of its connections once, and is
within the data model just where no setting of the data is out of it. -/
theorem proper_iff {data : Value} (accepted : ofValue data = .ok c) :
    (c.board.connections.map Connection.ends).Nodup ∧
    (c.Proper ↔ ∀ t, Key.normal false Key.mostSteps data = .ok (.table t) →
      ¬ Astray (unwrap t)) := by
  rcases of_ofValue accepted with ⟨rfl, rfl⟩ | ⟨t, spelled, read⟩
  · exact ⟨List.nodup_nil, iff_of_true proper_stock nofun⟩
  · have reads := reads_of_ofTable read
    obtain ⟨_, _, made⟩ := reads.board
    refine ⟨(Reading.over_of_boardOver made).apart List.nodup_nil, fun proper t' spelled' => ?_,
      fun kept => proper_of_not_astray reads (kept t spelled)⟩
    rw [spelled] at spelled'
    cases spelled'
    exact fun astray => astray.not_proper (normal_unwrap ⟨_, _, _, spelled⟩) reads proper

def bordering : Value :=
  .table [(text "bufferSize", .int 1), (text "jumperless", .table [
    (text "dacChannels", .table [(text "0", .table [(text "voltage", .float (-8.0))])]),
    (text "gpioPins", .table [(text "0", .table [
      (text "value", .bool true), (text "direction", .text (text "output"))])]),
    (text "connections", .list [
      .table [(text "nodeA", .text (text "A")), (text "nodeB", .text (text "B"))],
      .table [(text "nodeA", .text (text "B")), (text "nodeB", .text (text "A"))]])])]

theorem bordering_proper_iff :
    let c : Config := { stock with
      bufferSize := 1
      board := { Board.stock with
        dac := Board.stock.dac.put (text "0") (-8.0)
        pins := Board.stock.pins.put (text "0") { value := 1, direction := text "output" }
        connections := [⟨text "A", text "B"⟩] } }
    ofValue bordering = .ok c ∧ (c.board.connections.map Connection.ends).Nodup ∧
      (c.Proper ↔ ∀ t, Key.normal false Key.mostSteps bordering = .ok (.table t) →
        ¬ Astray (unwrap t)) := by
  intro c
  have accepted : ofValue bordering = .ok c := rfl
  exact ⟨accepted, proper_iff accepted⟩

def wild : Value :=
  .table [(text "virtualPort", .int 5), (text "bufferSize", .int (-1)),
    (text "baudRate", .int (-9600)), (text "jumperless", .table [
      (text "dacChannels", .table [(text "0", .table [(text "voltage", .float 99.0)])]),
      (text "gpioPins", .table [(text "0", .table [
        (text "value", .int 7), (text "direction", .text (text "sideways")),
        (text "pull", .text (text "left"))])])])]

theorem wild_accepted : ∃ c, ofValue wild = .ok c ∧ c.port = some (.int 5) ∧
    c.bufferSize = -1 ∧ c.baudRate = -9600 ∧
    (∃ v, c.board.dac.get? (text "0") = some v ∧ ¬ Board.Volts v) ∧
    c.board.pins.get? (text "0") = some ⟨7, text "sideways", text "left"⟩ ∧ ¬ c.Proper := by
  have beyond : ¬ Board.Volts 99.0 := by
    rw [← Board.inRange_iff]
    decide +kernel
  exact ⟨_, rfl, rfl, rfl, rfl, ⟨_, rfl, beyond⟩, rfl,
    fun proper => absurd proper.bufferSize (by decide)⟩

end Config

end Breadboard
