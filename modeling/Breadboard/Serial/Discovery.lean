import Breadboard.Serial.Client

/-! The search for a device among the serial ports of a machine. -/

namespace Breadboard.Discovery

inductive Fault where
  | notDevice (port : Text)
  | noPorts
  | noDevice (faults : List SerialFault)
  /-- The port that was asked for cannot be used. -/
  | unusable (fault : SerialFault)
  deriving DecidableEq

def Fault.message : Fault → Text
  | .notDevice port => text "port " ++ port ++ text " is not a Jumperless device"
  | .noPorts => text "no serial port found"
  | .noDevice [] => text "no Jumperless device found"
  | .noDevice faults =>
      text "no Jumperless device found: " ++
        Text.joinWith (text "; ") (faults.map SerialFault.message)
  | .unusable fault => fault.message

inductive Probe where
  | found (client : SerialClient)
  | other
  | failed (fault : SerialFault)

def probe (port : Text) (baudRate : Int) (bus : SerialBus) : Probe × SerialBus :=
  match (SerialClient.on bus port baudRate).during SerialClient.probe with
  | (.ok (some _), c) => (.found c, c.bus)
  | (.ok none, c) => (.other, c.bus)
  | (.error (.serial fault), c) => (.failed fault, c.bus)
  | (.error _, c) => (.other, c.bus)

def first (baudRate : Int) (bus : SerialBus) :
    List Text → (faults : List SerialFault) → Except Fault SerialClient × SerialBus
  | [], faults => (.error (.noDevice faults), bus)
  | port :: rest, faults =>
      match probe port baudRate bus with
      | (.found c, bus) => (.ok c, bus)
      | (.other, bus) => first baudRate bus rest faults
      | (.failed fault, bus) => first baudRate bus rest (faults ++ [fault])

/-- The device on a port, or on the first listed port that has one. -/
def find (port : Option Text) (baudRate : Int) (bus : SerialBus) :
    Except Fault SerialClient × SerialBus :=
  match port with
  | none | some [] =>
      match (bus.ports.filter (·.listed)).map (·.name) with
      | [] => (.error .noPorts, bus)
      | ports => first baudRate bus ports []
  | some port =>
      match probe port baudRate bus with
      | (.found c, bus) => (.ok c, bus)
      | (.other, bus) => (.error (.notDevice port), bus)
      | (.failed fault, bus) => (.error (.unusable fault), bus)

end Breadboard.Discovery
