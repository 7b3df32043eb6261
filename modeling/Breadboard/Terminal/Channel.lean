import Breadboard.Data.Value
import Breadboard.Terminal.Host

/-! A channel: a pseudo-terminal under a name of its own choice. Clients open the far side, and the
channel reads and writes the near one; both stay open here, so a client may come and go. -/

namespace Breadboard

inductive ChannelFault where
  | alreadyOpen
  | notOpen
  | cannotCreate (cause : HostFault)
  | cannotRead (cause : HostFault)
  | cannotWrite (cause : HostFault)
  /-- The settings of a new terminal cannot be changed. -/
  | unsettled (cause : HostFault)
  /-- What was chosen as a name is a value of a kind that names no file. -/
  | noPath (kind : Text)
  deriving DecidableEq

namespace ChannelFault

def message : ChannelFault → Text
  | alreadyOpen => text "channel already open"
  | notOpen => text "channel not open"
  | cannotCreate cause => text "failed to create virtual serial port: " ++ cause.message
  | cannotRead cause => text "error reading from pty: " ++ cause.message
  | cannotWrite cause => text "error writing to pty: " ++ cause.message
  | unsettled cause =>
      text "(" ++ Text.ofInt cause.number ++ text ", " ++ cause.words.display ++ text ")"
  | noPath kind => text "remove: path should be string, bytes or os.PathLike, not " ++ kind

def isReported : ChannelFault → Bool
  | unsettled _ | noPath _ => false
  | _ => true

end ChannelFault

/-- What is chosen as a name for a port; nothing is checked of a value from a file. -/
inductive PortName where
  | path (s : Text)
  | other (v : Value)

namespace PortName

def isGiven : PortName → Bool
  | path s => !s.isEmpty
  | other v => v.isGiven

def ofValue? (v : Value) : Option PortName :=
  match v with
  | .text s => some (path s)
  | .bytes data => some (path (Utf8.decodeEscaping data))
  | v => if v.isGiven then some (other v) else none

end PortName

structure Channel where
  chosenName : Option PortName := none
  near : Option Descriptor := none
  far : Option Descriptor := none
  terminal : Option Text := none
  /-- Whether the chosen name is a link of this channel's making. -/
  linked : Bool := false

namespace Channel

/-- A closed channel; an empty name is none. -/
def of (name : Option PortName) : Channel := { chosenName := name.filter PortName.isGiven }

def closed (name : Option Text) : Channel := of (name.map .path)

def isOpen (c : Channel) : Bool := c.near.isSome

def portName (c : Channel) : Option PortName := c.chosenName <|> c.terminal.map .path

def release (c : Channel) (h : Host) : Channel × Host :=
  let h := (c.near.toList ++ c.far.toList).foldl (fun h d => h.close d) h
  let h :=
    match c.chosenName with
    | some (.path name) => if c.linked then (h.remove name).2 else h
    | _ => h
  ({ c with near := none, far := none, linked := false }, h)

/-- Links the chosen name to the terminal, in place of what has its name if that can be removed. -/
def publish (c : Channel) (h : Host) : Except ChannelFault Unit × Channel × Host :=
  match c.chosenName with
  | none => (.ok (), c, h)
  | some (.other v) => (.error (.noPath v.kindName), c, h)
  | some (.path name) =>
      if name = Host.terminalName then (.ok (), c, h)
      else
        let (_, h) := h.remove name
        match h.link Host.terminalName name with
        | (.error fault, h) => (.error (.cannotCreate fault), c, h)
        | (.ok (), h) => (.ok (), { c with linked := true }, h)

def acquire (c : Channel) (h : Host) : Except ChannelFault Unit × Channel × Host :=
  match h.openPair with
  | (.error fault, h) => (.error (.cannotCreate fault), c, h)
  | (.ok (near, far), h) =>
      let c := { c with near := some near, far := some far }
      match h.fault? .nameTerminal with
      | some fault => (.error (.cannotCreate fault), c, h)
      | none =>
          let c := { c with terminal := some Host.terminalName }
          match h.settingsFault, h.fault? .setRaw, h.fault? .setUnblocking with
          | some fault, _, _ => (.error (.unsettled fault), c, h)
          | none, some fault, _ => (.error (.cannotCreate fault), c, h)
          | none, none, some fault => (.error (.cannotCreate fault), c, h)
          | none, none, none => c.publish h

/-- Opens a closed channel. If a step fails, nothing stays open, but for a fault that is not looked
out for: then the channel stays as it was at that step. -/
def start (c : Channel) (h : Host) : Except ChannelFault Unit × Channel × Host :=
  if c.isOpen then (.error .alreadyOpen, c, h)
  else match c.acquire h with
    | (.ok (), c, h) => (.ok (), c, h)
    | (.error fault, c, h) => (.error fault, if fault.isReported then c.release h else (c, h))

def close (c : Channel) (h : Host) : Channel × Host := if c.isOpen then c.release h else (c, h)

inductive Reading where
  | data (bytes : Bytes)
  | hangUp

/-- Reads at most `size` bytes; there are none if none wait. -/
def read (c : Channel) (size : Nat) (h : Host) : Except ChannelFault Reading × Host :=
  if c.isOpen then
    match h.read size with
    | (.ok data, h) => (.ok (.data data), h)
    | (.error fault, h) =>
        if fault.isWouldBlock then (.ok (.data []), h)
        else if fault.isNoClient then (.ok .hangUp, h)
        else (.error (.cannotRead fault), h)
  else (.error .notOpen, h)

def write (c : Channel) (data : Bytes) (h : Host) : Except ChannelFault Nat × Host :=
  if c.isOpen then
    match h.write data with
    | (.ok n, h) => (.ok n, h)
    | (.error fault, h) =>
        if fault.isWouldBlock then (.ok 0, h) else (.error (.cannotWrite fault), h)
  else (.error .notOpen, h)

end Channel

end Breadboard
