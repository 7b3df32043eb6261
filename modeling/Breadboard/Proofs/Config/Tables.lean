import Breadboard.Proofs.Board.Connections
import Breadboard.Proofs.Config.Spelling

/-! Tables of a configuration in their common spelling, and what has been read
from them. -/

namespace Breadboard

namespace Value

def isMapping : Value → Bool
  | .table _ => true
  | .map _ => true
  | _ => false

def entries : Value → List (Value × Value)
  | .table entries => entries.map fun (k, v) => (.text k, v)
  | .map entries => entries
  | _ => []

end Value

variable {α : Type} {t inner : Table} {key : String}

/-! Tables in tables. -/

namespace Key

variable {ids : Bool} {steps : Nat} {v w : Value}

theorem normal_mapping (mapping : v.isMapping = true) (ids : Bool) (steps : Nat) :
    normal ids (steps + 1) v = (do
      return .table (Dict.ofEntries (← v.entries.mapM (normalPair ids steps)))) := by
  cases v with
  | table entries =>
      rw [normal, normalEntries_eq, Value.entries, List.mapM_map]
      rfl
  | map entries =>
      rw [normal, normalPairs_eq]
      rfl
  | _ => cases mapping

theorem of_normal_table (spelled : normal ids steps v = .ok (.table t)) :
    ∃ fewer new, steps = fewer + 1 ∧ v.isMapping = true ∧
      v.entries.mapM (normalPair ids fewer) = .ok new ∧ t = Dict.ofEntries new := by
  cases steps with
  | zero =>
      rw [normal] at spelled
      cases spelled
  | succ steps =>
      by_cases mapping : v.isMapping = true
      · rw [normal_mapping mapping] at spelled
        obtain ⟨new, read, result⟩ := Config.bind_eq_ok spelled
        cases result
        exact ⟨steps, new, rfl, mapping, read, rfl⟩
      · cases v with
        | table => exact absurd rfl mapping
        | map => exact absurd rfl mapping
        | list items =>
            rw [normal] at spelled
            obtain ⟨new, _, result⟩ := Config.bind_eq_ok spelled
            cases result
        | again shape => cases shape <;> cases spelled
        | _ => cases spelled

theorem of_normalPair {entry : Value × Value} {new : Text × Value}
    (spelled : normalPair ids steps entry = .ok new) :
    new.1 = (if ids then entry.1.toText else snake entry.1.toText) ∧
      normal (!ids && isIdTable new.1) steps entry.2 = .ok new.2 := by
  obtain ⟨k, shown, spelled⟩ := Config.bind_eq_ok spelled
  obtain ⟨w, part, result⟩ := Config.bind_eq_ok spelled
  cases result
  rw [textOf] at shown
  split at shown
  · cases shown
    exact ⟨rfl, part⟩
  · cases shown

def Normal (w : Value) : Prop := ∃ ids steps v, normal ids steps v = .ok w

theorem Normal.nodup (common : Normal (.table t)) : t.keys.Nodup := by
  obtain ⟨_, _, _, spelled⟩ := common
  obtain ⟨_, new, _, _, _, rfl⟩ := of_normal_table spelled
  exact Dict.nodup_ofEntries new

theorem Normal.field (common : Normal (.table t)) (key : String) :
    Normal (Config.field t key) := by
  obtain ⟨_, _, _, spelled⟩ := common
  obtain ⟨fewer, new, _, _, read, rfl⟩ := of_normal_table spelled
  rw [Config.field]
  cases found : Dict.get? (Dict.ofEntries new) (text key) with
  | none => exact ⟨false, 1, .null, rfl⟩
  | some w =>
      have member := Dict.mem_of_mem_ofEntries (Dict.mem_of_get? found)
      obtain ⟨entry, _, part⟩ := Config.exists_of_mapM_ok read member
      exact ⟨_, _, _, (of_normalPair part).2⟩

theorem Normal.inSection (common : Normal (.table t))
    (inside : Config.section? t key = .ok inner) : Normal (.table inner) := by
  rw [Config.section?, Config.given] at inside
  split at inside
  · next found =>
      cases inside
      split at found
      · exact found ▸ common.field key
      · exact found ▸ ⟨false, 1, .table [], rfl⟩
  · cases inside

end Key

namespace Config

/-! What a configuration has from a table. -/

theorem of_ofValue {data : Value} {c : Config} (accepted : ofValue data = .ok c) :
    data = .null ∧ c = stock ∨
      ∃ t, Key.normal false Key.mostSteps data = .ok (.table t) ∧ ofTable (unwrap t) = .ok c := by
  have ofData : ofTableData data = .ok c →
      ∃ t, Key.normal false Key.mostSteps data = .ok (.table t) ∧
        ofTable (unwrap t) = .ok c := by
    intro read
    rw [ofTableData] at read
    split at read
    · next v spelled =>
        cases v with
        | table t => exact ⟨t, spelled, read⟩
        | _ => cases read
    · cases read
    · cases read
  cases data with
  | null =>
      cases accepted
      exact .inl ⟨rfl, rfl⟩
  | table => exact .inr (ofData accepted)
  | map => exact .inr (ofData accepted)
  | _ => cases accepted

theorem normal_unwrap (common : Key.Normal (.table t)) : Key.Normal (.table (unwrap t)) := by
  rw [unwrap]
  split
  · next found => exact found ▸ common.field "emulator"
  · exact common

structure Reads (t : Table) (c : Config) : Prop where
  line : ∃ serial, section? t "serial" = .ok serial ∧
    c.port = (let port := serialSetting t serial "virtual_port" "port" .null
      if port.isGiven then some port else none) ∧
    integer (serialSetting t serial "buffer_size" "buffer_size" (.int 1024)) =
      .ok c.bufferSize ∧
    integer (serialSetting t serial "baud_rate" "baud_rate" (.int 115200)) = .ok c.baudRate
  board : ∃ data, boardTable t = .ok data ∧ Reading.board data = .ok c.board

theorem reads_of_ofTable {c : Config} (read : ofTable t = .ok c) : Reads t c := by
  rw [ofTable_eq] at read
  obtain ⟨serial, inside, read⟩ := bind_eq_ok read
  obtain ⟨bufferSize, buffer, read⟩ := bind_eq_ok read
  obtain ⟨baudRate, baud, read⟩ := bind_eq_ok read
  obtain ⟨drainTimeout, _, read⟩ := bind_eq_ok read
  obtain ⟨data, found, read⟩ := bind_eq_ok read
  obtain ⟨board, made, read⟩ := bind_eq_ok read
  obtain ⟨ms, _, read⟩ := bind_eq_ok read
  cases read
  exact ⟨⟨serial, inside, rfl, buffer, baud⟩, ⟨data, found, made⟩⟩

theorem normal_boardTable (common : Key.Normal (.table t)) (found : boardTable t = .ok inner) :
    Key.Normal (.table inner) := by
  obtain ⟨first, inside, found⟩ := bind_eq_ok found
  split at found
  · exact common.inSection found
  · cases found
    exact common.inSection inside

namespace Reading

/-! What a board has from its tables. -/

/-- After entries are put into a dictionary, what is under a key has been read
from an entry under that key, or was there before. -/
theorem get?_of_putAll {read : Text → Table → Reading α} {d d' : Dict α}
    (done : putAll read t d = .ok d') (k : Text) :
    (∃ inner a, (k, .table inner) ∈ t ∧ read k inner = .ok a ∧ d'.get? k = some a) ∨
      k ∉ t.keys ∧ d'.get? k = d.get? k := by
  induction t generalizing d with
  | nil =>
      cases done
      exact .inr ⟨List.not_mem_nil, rfl⟩
  | cons entry rest ih =>
      obtain ⟨key, v⟩ := entry
      rw [putAll, List.foldlM_cons] at done
      obtain ⟨d₁, put, done⟩ := bind_eq_ok done
      obtain ⟨inner, table, put⟩ := bind_eq_ok put
      obtain ⟨a, value, put⟩ := bind_eq_ok put
      cases put
      rcases ih done with ⟨inner', a', member, value', found⟩ | ⟨absent, kept⟩
      · exact .inl ⟨inner', a', List.mem_cons_of_mem _ member, value', found⟩
      · rw [Dict.get?_put] at kept
        split at kept
        · next same =>
            subst same
            refine .inl ⟨inner, a, ?_, value, kept⟩
            cases v with
            | table entries =>
                cases table
                exact List.mem_cons_self
            | _ => cases table
        · next other =>
            exact .inr ⟨fun there => (List.mem_cons.1 there).elim other absent, kept⟩

theorem has_putAll {read : Text → Table → Reading α} {d d' : Dict α}
    (done : putAll read t d = .ok d') (k : Text) :
    d'.has k = true ↔ d.has k = true ∨ k ∈ t.keys := by
  rcases get?_of_putAll done k with ⟨inner, a, member, _, found⟩ | ⟨absent, kept⟩
  · rw [Dict.has, found]
    exact iff_of_true rfl (.inr (Dict.mem_keys.2 ⟨_, member⟩))
  · rw [Dict.has, kept, Dict.has]
    simp [absent]

theorem withConnections_eq (b : Board) (connections : List Connection) :
    ∃ made, b.withConnections connections = { b with connections := made } := by
  induction connections generalizing b with
  | nil => exact ⟨b.connections, rfl⟩
  | cons c rest ih =>
      have one : ∃ made, (b.connect c.one c.other).2 = { b with connections := made } := by
        rw [Board.connect]
        split
        · exact ⟨b.connections, rfl⟩
        · exact ⟨_, rfl⟩
      obtain ⟨made, one⟩ := one
      obtain ⟨all, rest⟩ := ih (b.connect c.one c.other).2
      exact ⟨all, rest.trans (by rw [one])⟩

/-- The tables of a board, as they are read over those of an old one. -/
structure Over (t : Table) (old b : Board) : Prop where
  dac : ∃ s, section? t "dac_channels" = .ok s ∧ putAll (fun _ => volts) s old.dac = .ok b.dac
  adc : ∃ s, section? t "adc_channels" = .ok s ∧ putAll (fun _ => adc) s old.adc = .ok b.adc
  sensors : ∃ s, section? t "ina_sensors" = .ok s ∧
    putAll (fun _ => sensor) s old.sensors = .ok b.sensors
  pins : ∃ s, section? t "gpio_pins" = .ok s ∧ putAll (fun _ => pin) s old.pins = .ok b.pins
  nodes : ∃ s, section? t "nodes" = .ok s ∧ putAll node s old.nodes = .ok b.nodes
  apart : (old.connections.map Connection.ends).Nodup →
    (b.connections.map Connection.ends).Nodup

theorem over_of_boardOver {old b : Board} (read : boardOver t old = .ok b) : Over t old b := by
  obtain ⟨firmware, _, read⟩ := bind_eq_ok read
  obtain ⟨hardware, _, read⟩ := bind_eq_ok read
  obtain ⟨identity, _, read⟩ := bind_eq_ok read
  obtain ⟨dacs, inDac, read⟩ := bind_eq_ok read
  obtain ⟨dac, dacRead, read⟩ := bind_eq_ok read
  obtain ⟨adcs, inAdc, read⟩ := bind_eq_ok read
  obtain ⟨adc, adcRead, read⟩ := bind_eq_ok read
  obtain ⟨sensorss, inSensors, read⟩ := bind_eq_ok read
  obtain ⟨sensors, sensorsRead, read⟩ := bind_eq_ok read
  obtain ⟨pinss, inPins, read⟩ := bind_eq_ok read
  obtain ⟨pins, pinsRead, read⟩ := bind_eq_ok read
  obtain ⟨nodess, inNodes, read⟩ := bind_eq_ok read
  obtain ⟨nodes, nodesRead, read⟩ := bind_eq_ok read
  obtain ⟨ends, _, read⟩ := bind_eq_ok read
  obtain ⟨connections, _, read⟩ := bind_eq_ok read
  cases read
  let filled : Board := { old with firmware, identity, dac, adc, sensors, pins, nodes }
  have apart (own : (old.connections.map Connection.ends).Nodup) :
      ((filled.withConnections connections).connections.map Connection.ends).Nodup := by
    have joins : filled.Joins {p | p ∈ old.connections.map Connection.ends} :=
      ⟨fun _ => Iff.rfl, own⟩
    exact (joins.withConnections connections).apart
  obtain ⟨made, same⟩ := withConnections_eq filled connections
  rw [same] at apart ⊢
  exact {
    dac := ⟨dacs, inDac, dacRead⟩
    adc := ⟨adcs, inAdc, adcRead⟩
    sensors := ⟨sensorss, inSensors, sensorsRead⟩
    pins := ⟨pinss, inPins, pinsRead⟩
    nodes := ⟨nodess, inNodes, nodesRead⟩
    apart }

end Reading

end Config

end Breadboard
