import Breadboard.Data.Value

/-! The simulated board: its voltage outputs and inputs, current sensors, pins and nodes, and the
connections made between nodes. Writes are lenient: what is out of range is ignored, and a channel
or pin that is not there yet appears when it is first written. -/

namespace Breadboard

structure Adc where
  voltage : Float
  limit : Float

structure CurrentSensor where
  current : Float
  voltage : Float
  busVoltage : Float
  power : Float

structure Pin where
  value : Int := 0
  direction : Text := text "input"
  pull : Text := text "none"
  deriving DecidableEq

structure Connection where
  one : Text
  other : Text
  deriving DecidableEq

structure Node where
  number : Int
  constant : Text
  aliases : List Value := []
  kind : Text

structure Identity where
  generation : Int := 5
  revision : Int := 5
  probeRevision : Int := 5
  deriving DecidableEq

structure Board where
  firmware : Text
  identity : Identity := {}
  dac : Dict Float := []
  adc : Dict Adc := []
  sensors : Dict CurrentSensor := []
  pins : Dict Pin := []
  connections : List Connection := []
  nodes : Dict Node := []

def Connection.joins (c : Connection) (a b : Text) : Bool :=
  c.one = a && c.other = b || c.one = b && c.other = a

namespace Board

def mostVolts : Nat := 8

def inRange (volts : Float) : Bool := (FloatKind.of volts).within mostVolts

/-- The rails have numbers, after those of the two plain outputs. -/
def rail? (channel : Text) : Option Text :=
  if channel = text "2" then some (text "TOP_RAIL")
  else if channel = text "3" then some (text "BOTTOM_RAIL")
  else none

/-- The output that a channel's name stands for: itself if there is one, else a rail. -/
def output (b : Board) (channel : Text) : Text :=
  if b.dac.has channel then channel else (rail? channel).getD channel

def dacVoltage? (b : Board) (channel : Text) : Option Float := b.dac.get? (b.output channel)

def setDac (b : Board) (channel : Text) (volts : Float) : Bool × Board :=
  if inRange volts then (true, { b with dac := b.dac.put (b.output channel) volts })
  else (false, b)

def adcVoltage? (b : Board) (channel : Text) : Option Float := (b.adc.get? channel).map (·.voltage)

def pinValue? (b : Board) (pin : Text) : Option Int := (b.pins.get? pin).map (·.value)

def setPin (b : Board) (pin : Text) (value : Int) : Bool × Board :=
  if value = 0 ∨ value = 1 then
    (true, { b with pins := b.pins.put pin { (b.pins.get? pin).getD {} with value } })
  else (false, b)

def isConnected (b : Board) (x y : Text) : Bool := b.connections.any (·.joins x y)

def connect (b : Board) (x y : Text) : Bool × Board :=
  if b.isConnected x y then (false, b)
  else (true, { b with connections := b.connections ++ [⟨x, y⟩] })

def disconnect (b : Board) (x y : Text) : Bool × Board :=
  if b.isConnected x y then
    (true, { b with connections := b.connections.eraseP (·.joins x y) })
  else (false, b)

def clearConnections (b : Board) : Board := { b with connections := [] }

def withConnections (b : Board) (connections : List Connection) : Board :=
  connections.foldl (fun b c => (b.connect c.one c.other).2) b

end Board

end Breadboard
