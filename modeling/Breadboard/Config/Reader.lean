import Breadboard.Config.Board
import Breadboard.Config.Key
import Breadboard.Config.Mapping
import Breadboard.Response.Stock

/-! The configuration that data stands for. -/

namespace Breadboard.Config

def stock : Config := { board := Board.stock, mappings := Mappings.stock }

/-- The table that holds the configuration: the one inside `emulator`, if there is one. -/
def unwrap (t : Table) : Table :=
  match field t "emulator" with
  | .table inner => inner
  | _ => t

/-- A setting of the serial line, which may stand by itself or in a section of its own. -/
def serialSetting (t serial : Table) (key serialKey : String) (default : Value) : Value :=
  given (field t key) (given (field serial serialKey) default)

/-- The board's data, in the section of either name. -/
def boardTable (t : Table) : Reading Table := do
  let first ← section? t "jumperless"
  if first.isEmpty then section? t "hardware_state" else return first

def ofTable (t : Table) : Reading Config := do
  let serial ← section? t "serial"
  let port := serialSetting t serial "virtual_port" "port" .null
  let bufferSize ← integer (serialSetting t serial "buffer_size" "buffer_size" (.int 1024))
  let baudRate ← integer (serialSetting t serial "baud_rate" "baud_rate" (.int 115200))
  let drainTimeout ←
    match t.get? (text "drain_timeout") with
    | some v => duration v
    | none => pure stock.drainTimeout
  let board ← Reading.board (← boardTable t)
  let mappings ←
    match t.get? (text "mappings") with
    | some v => Reading.mappings v
    | none => pure stock.mappings
  return {
    port := if port.isGiven then some port else none
    bufferSize, baudRate, drainTimeout, board, mappings }

def ofNormal : Value → Reading Config
  | .table t => ofTable (unwrap t)
  | _ => .error .notTable

def ofTableData (data : Value) : Reading Config :=
  match Key.normal false Key.mostSteps data with
  | .ok v => ofNormal v
  | .error .unshown => .error .longKey
  | .error .tooDeep => .error .tooDeep

/-- The configuration that data stands for; no data stands for the stock one. -/
def ofValue (data : Value) : Reading Config :=
  match data with
  | .null => .ok stock
  | .table _ => ofTableData data
  | .map _ => ofTableData data
  | _ => .error .notTable

end Breadboard.Config
