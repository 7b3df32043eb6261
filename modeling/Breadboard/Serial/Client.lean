import Breadboard.Reply.Envelope
import Breadboard.Reply.Firmware
import Breadboard.Reply.NetTable
import Breadboard.Reply.Settings
import Breadboard.Serial.Port

/-! The client of a device on a serial port. A command is written, and all that the device prints
until it falls silent is its reply. -/

namespace Breadboard

inductive SerialFault where
  | alreadyOpen (port : Text)
  | notOpen (port : Text)
  | cannotOpen (port cause : Text)
  | cannotClose (port cause : Text)
  | cannotTalk (port cause : Text)
  deriving DecidableEq

def SerialFault.message : SerialFault → Text
  | .alreadyOpen port => text "serial port " ++ port ++ text " already open"
  | .notOpen port => text "serial port " ++ port ++ text " not open"
  | .cannotOpen port cause => text "unable to open serial port " ++ port ++ text ": " ++ cause
  | .cannotClose port cause => text "unable to close serial port " ++ port ++ text ": " ++ cause
  | .cannotTalk port cause => text "unable to talk to serial port " ++ port ++ text ": " ++ cause

inductive CommandFault where
  | serial (fault : SerialFault)
  | reply (fault : Envelope.Fault)
  /-- A command that no bytes stand for. -/
  | unencodable
  /-- A table in which an index has too many digits. -/
  | endlessIndex
  deriving DecidableEq

structure SerialClient where
  port : Text
  baudRate : Int
  version : Option Text := none
  line : Option SerialLine := none
  bus : SerialBus

inductive DacChannel where
  | dac0
  | dac1
  | topRail
  | bottomRail
  deriving DecidableEq, Repr

namespace DacChannel

def toNat : DacChannel → Nat
  | dac0 => 0
  | dac1 => 1
  | topRail => 2
  | bottomRail => 3

def ofInt? (i : Int) : Option DacChannel :=
  [dac0, dac1, topRail, bottomRail].find? fun c => i = c.toNat

end DacChannel

namespace SerialClient

def usualBaudRate : Int := 115200

def on (bus : SerialBus) (port : Text) (baudRate : Int) : SerialClient where
  port
  baudRate := if baudRate = 0 then usualBaudRate else baudRate
  bus

def describe (c : SerialClient) : Text :=
  let version :=
    match c.version with
    | some v => v.display
    | none => text "None"
  text "<JumperlessDevice port=" ++ c.port.display ++ text " version=" ++ version ++ text ">"

def isOpen (c : SerialClient) : Bool := c.line.isSome

def connect (c : SerialClient) : Except CommandFault Unit × SerialClient :=
  match c.line with
  | some _ => (.error (.serial (.alreadyOpen c.port)), c)
  | none =>
      match c.bus.openLine c.port c.baudRate with
      | (.error cause, bus) => (.error (.serial (.cannotOpen c.port cause)), { c with bus })
      | (.ok line, bus) => (.ok (), { c with bus, line := some line })

def disconnect (c : SerialClient) : Except CommandFault Unit × SerialClient :=
  match c.line with
  | none => (.error (.serial (.notOpen c.port)), c)
  | some line =>
      match c.bus.closeLine line with
      | (.error cause, bus) =>
          (.error (.serial (.cannotClose c.port cause)), { c with bus, line := none })
      | (.ok (), bus) => (.ok (), { c with bus, line := none })

def commandWait : Wait := .seconds 0.01

def settingsWait : Wait := .seconds 0.5

def bytesOf? (s : Text) : Option Bytes := if s.any CodePoint.isLone then none else Utf8.encode? s

/-- All that the device prints in reply to a command. The line is cleared before a command that no
bytes stand for is found out. -/
def raw (command : Text) (wait : Wait) (c : SerialClient) :
    Except CommandFault Text × SerialClient :=
  match c.line with
  | none => (.error (.serial (.notOpen c.port)), c)
  | some line =>
      match bytesOf? command with
      | none =>
          match c.bus.clear line with
          | (.error cause, bus) => (.error (.serial (.cannotTalk c.port cause)), { c with bus })
          | (.ok (), bus) => (.error .unencodable, { c with bus })
      | some data =>
          match c.bus.talk line data wait with
          | (.error cause, bus) => (.error (.serial (.cannotTalk c.port cause)), { c with bus })
          | (.ok reply, bus) => (.ok (Utf8.decodeReplacing reply), { c with bus })

def unwrapped (result : Except CommandFault Text) (unwrap : Text → Except Envelope.Fault Text) :
    Except CommandFault Text :=
  result.bind fun reply => (unwrap reply).mapError .reply

def execute (command : Text) (wait : Wait) (c : SerialClient) :
    Except CommandFault Text × SerialClient :=
  let (result, c) := c.raw (text ">" ++ command) wait
  (unwrapped result Envelope.unwrap, c)

/-- Asks for the firmware version, and keeps the answer: there is none if this is no device of the
kind. -/
def probe (c : SerialClient) : Except CommandFault (Option Text) × SerialClient :=
  match c.raw (text "?") commandWait with
  | (.error fault, c) => (.error fault, c)
  | (.ok reply, c) =>
      let version := Firmware.version? reply
      (.ok version, { c with version })

/-- Opens the line for one task and closes it after it, whatever came of the task. -/
def during {α : Type} (task : SerialClient → Except CommandFault α × SerialClient)
    (c : SerialClient) : Except CommandFault α × SerialClient :=
  match c.connect with
  | (.error fault, c) => (.error fault, c)
  | (.ok (), c) =>
      let (result, c) := task c
      match c.disconnect with
      | (.error fault, c) => (.error fault, c)
      | (.ok (), c) => (result, c)

def settings (c : SerialClient) :
    Except CommandFault (Settings × List Settings.Fault) × SerialClient :=
  let (result, c) := c.raw (text "~") settingsWait
  (result.map Settings.read, c)

def nets (c : SerialClient) :
    Except CommandFault (List Net × List NetTable.Fault) × SerialClient :=
  let (result, c) := c.execute (text "print_nets()") commandWait
  (result.bind fun table =>
    match NetTable.read? table with
    | some found => .ok found
    | none => .error .endlessIndex, c)

def voltage (channel : DacChannel) (c : SerialClient) : Except CommandFault Text × SerialClient :=
  let (result, c) := c.raw (text ">dac_get(" ++ Text.ofNat channel.toNat ++ text ")") commandWait
  (unwrapped result Envelope.voltage, c)

end SerialClient

end Breadboard
