import Breadboard.Board.Stock
import Breadboard.Config.Basic

/-! The board read from data: what is given takes the place of what the stock board has. -/

namespace Breadboard.Config.Reading

def identity (t : Table) (old : Identity) : Reading Identity := do
  if t.isEmpty then return old
  else
    return {
      generation := ← integer (fieldOr t "generation" (.int old.generation))
      revision := ← integer (fieldOr t "revision" (.int old.revision))
      probeRevision := ← integer (fieldOr t "probe_revision" (.int old.probeRevision)) }

def putAll {α : Type} (read : Text → Table → Reading α) (t : Table) (d : Dict α) :
    Reading (Dict α) :=
  t.foldlM (fun d (key, v) => do return d.put key (← read key (← tableOf v))) d

def volts (t : Table) : Reading Float := number (fieldOr t "voltage" (.float 0.0))

def adc (t : Table) : Reading Adc := do
  return { voltage := ← volts t, limit := ← number (fieldOr t "max_value" (.float 8.0)) }

def sensor (t : Table) : Reading CurrentSensor := do
  let part (key : String) := number (fieldOr t key (.float 0.0))
  return {
    current := ← part "current", voltage := ← part "voltage"
    busVoltage := ← part "bus_voltage", power := ← part "power" }

def pin (t : Table) : Reading Pin := do
  return {
    value := ← integer (fieldOr t "value" (.int 0))
    direction := ← textOf (fieldOr t "direction" (.text (text "input")))
    pull := ← textOf (fieldOr t "pull" (.text (text "none"))) }

def node (name : Text) (t : Table) : Reading Node := do
  return {
    number := ← integer (fieldOr t "number" (.int 0))
    constant := ← textOf (fieldOr t "constant" (.text name))
    aliases := ← members (field t "aliases")
    kind := ← textOf (fieldOr t "type" (fieldOr t "kind" (.text []))) }

def connection (v : Value) : Reading Connection := do
  let t ← tableOf v
  match t.get? (text "node_a"), t.get? (text "node_b") with
  | some a, some b => return ⟨← textOf a, ← textOf b⟩
  | _, _ => .error .wrongKind

def boardOver (t : Table) (b : Board) : Reading Board := do
  let firmware ← textOf (fieldOr t "firmware_version" (.text b.firmware))
  let identity ← identity (← section? t "hardware") b.identity
  let dac ← putAll (fun _ => volts) (← section? t "dac_channels") b.dac
  let adc ← putAll (fun _ => adc) (← section? t "adc_channels") b.adc
  let sensors ← putAll (fun _ => sensor) (← section? t "ina_sensors") b.sensors
  let pins ← putAll (fun _ => pin) (← section? t "gpio_pins") b.pins
  let nodes ← putAll node (← section? t "nodes") b.nodes
  let connections ← (← members (field t "connections")).mapM connection
  let b := { b with firmware, identity, dac, adc, sensors, pins, nodes }
  return Board.withConnections b connections

def board (t : Table) : Reading Board := boardOver t Board.stock

end Breadboard.Config.Reading
