import Breadboard.Proxy.Link
import Breadboard.Proxy.Traffic
import Breadboard.Recording.Recorder
import Breadboard.Serial.Discovery
import Breadboard.Terminal.Transfer

/-! The relay between a client on a channel and a real device on a link. All that passes is counted,
shown and recorded. -/

namespace Breadboard

inductive RelayFault where
  | channel (fault : ChannelFault)
  | discovery (fault : Discovery.Fault)
  | connect (port : Text) (cause : HostFault)
  /-- The link was made and could not be reset. -/
  | reset (cause : Text)

namespace RelayFault

def message : RelayFault → Text
  | .channel fault => fault.message
  | .discovery fault => fault.message
  | .connect port cause =>
      text "failed to open real serial port " ++ port ++ text ": " ++ cause.message
  | .reset cause => cause

def isReported : RelayFault → Bool
  | .channel fault => fault.isReported
  | .reset _ => false
  | _ => true

end RelayFault

structure Relay where
  realPort : Option Text
  baudRate : Int
  /-- The most bytes a read takes; of the device's, a negative size takes all up to the end. -/
  bufferSize : Int
  quiet : Bool
  channel : Channel
  link : Link
  bus : SerialBus
  running : Bool := false
  recorder : Recorder := {}
  traffic : Traffic := {}
  shown : List Text := []
  /-- Reads from the client on their way to the device. -/
  toDevice : List Bytes := []
  /-- What the device has sent and was not read. -/
  fromDevice : Bytes := []
  deviceEnded : Bool := false
  /-- Whether the device's side is still read. -/
  reading : Bool := true
  /-- A packet that the client has no room for. -/
  stalled : Option Transfer := none

namespace Relay

def usualBufferSize : Int := 1024

def of (realPort port : Option Text) (baudRate bufferSize : Int) (quiet : Bool) (link : Link)
    (bus : SerialBus) : Relay where
  realPort := realPort.filter (!·.isEmpty)
  baudRate := if baudRate = 0 then SerialClient.usualBaudRate else baudRate
  bufferSize := if bufferSize = 0 then usualBufferSize else bufferSize
  quiet
  channel := .closed port
  link
  bus

def realPort? (r : Relay) : Except RelayFault Text × Relay :=
  match r.realPort with
  | some port => (.ok port, r)
  | none =>
      match Discovery.find none r.baudRate r.bus with
      | (.ok client, bus) => (.ok client.port, { r with bus, realPort := some client.port })
      | (.error fault, bus) => (.error (.discovery fault), { r with bus })

def connect (r : Relay) : Except RelayFault Unit × Relay :=
  match r.realPort? with
  | (.error fault, r) => (.error fault, r)
  | (.ok port, r) =>
      match r.link.connect port r.baudRate with
      | (.error cause, link) => (.error (.connect port cause), { r with link })
      | (.ok (), link) =>
          match link.reset with
          | (.error cause, link) => (.error (.reset cause), { r with link })
          | (.ok (), link) => (.ok (), { r with link })

/-- Opens the channel and connects to the device. If the second fails, the channel is closed; if the
first fails, it is as that has left it. -/
def start (r : Relay) (h : Host) : Except RelayFault Unit × Relay × Host :=
  match r.channel.start h with
  | (.error fault, channel, h) => (.error (.channel fault), { r with channel }, h)
  | (.ok (), channel, h) =>
      match { r with channel }.connect with
      | (.ok (), r) => (.ok (), { r with running := true }, h)
      | (.error fault, r) =>
          let (channel, h) := r.channel.close h
          (.error fault, { r with channel }, h)

def report (d : Direction) (data : Bytes) (r : Relay) : Relay :=
  if r.quiet then r
  else
    let (shown, traffic) := r.traffic.report d data
    { r with traffic, shown := r.shown ++ [shown] }

def fromClient (now : Nat) (data : Bytes) (r : Relay) : Relay :=
  let r := { r with recorder := r.recorder.request (Clock.seconds now) data }
  let r := r.report .toDevice data
  { r with toDevice := r.toDevice ++ [data] }

def forward (r : Relay) : Relay :=
  match r.toDevice with
  | [] => r
  | data :: rest => { r with link := r.link.send data, toDevice := rest }

def forwardAll (r : Relay) : Relay :=
  { r with link := r.toDevice.foldl (fun l data => l.send data) r.link, toDevice := [] }

def readClient (r : Relay) (h : Host) : Relay × Host :=
  match r.channel.read r.bufferSize.toNat h with
  | (.ok (.data data), h) => (if data.isEmpty then r else r.fromClient h.now data, h)
  | (_, h) => (r, h)

def readClientAll : (reads : Nat) → Relay → Host → Relay × Host
  | 0, r, h => (r, h)
  | reads + 1, r, h =>
      if h.waiting.isEmpty then (r, h)
      else
        let (r, h') := r.readClient h
        if h'.waiting.length < h.waiting.length then readClientAll reads r h' else (r, h')

def readable (r : Relay) : Nat :=
  if r.bufferSize < 0 then (if r.deviceEnded then r.fromDevice.length else 0)
  else min r.bufferSize.toNat r.fromDevice.length

def toClient (data : Bytes) (r : Relay) (h : Host) : Relay × Host :=
  let r := { r with recorder := r.recorder.response (Clock.seconds h.now) data }
  let r := r.report .fromDevice data
  match Transfer.start r.channel data Transfer.stallLimit h with
  | (.waiting t, h) => ({ r with stalled := some t }, h)
  | (_, h) => (r, h)

/-- Passes on what the device has sent, up to a packet that the client has no room for. At most
`packets` are passed. -/
def pass : (packets : Nat) → Relay → Host → Relay × Host
  | 0, r, h => (r, h)
  | packets + 1, r, h =>
      if r.stalled.isSome || !r.reading then (r, h)
      else if r.readable = 0 then ({ r with reading := !r.deviceEnded }, h)
      else
        let data := r.fromDevice.take r.readable
        let (r, h) := toClient data { r with fromDevice := r.fromDevice.drop r.readable } h
        pass packets r h

def passAll (r : Relay) (h : Host) : Relay × Host := pass (r.fromDevice.length + 1) r h

def wake (r : Relay) (h : Host) : Relay × Host :=
  match r.stalled with
  | none => (r, h)
  | some t =>
      match t.wake r.channel h with
      | (.waiting t, h) => ({ r with stalled := some t }, h)
      | (_, h) => passAll { r with stalled := none } h

/-- Lets happen what is due up to a time that has not passed; each packet may stall once. -/
def run (till : Nat) : (packets : Nat) → Relay → Host → Relay × Host
  | 0, r, h => (r, h)
  | packets + 1, r, h =>
      match r.stalled.bind (·.deadline) with
      | some time =>
          let now := Clock.ringTime time h.now
          if now ≤ till then
            let (r, h) := passAll { r with stalled := none } { h with now }
            run till packets r h
          else (r, h)
      | none => (r, h)

/-- Ends both directions, closes both sides and gives the recording. What a client had no room for
is given up. -/
def stop (r : Relay) (h : Host) : Mappings × Relay × Host :=
  let link := r.link.close
  let (channel, h) := r.channel.close h
  let shown := if r.quiet then [] else r.traffic.summary (Clock.stampSeconds h.now)
  let recorder := r.recorder.finish
  (recorder.mappings, { r with
    link, channel, recorder
    running := false
    toDevice := []
    stalled := none
    shown := r.shown ++ shown }, h)

def meet (i : Incident) (r : Relay) (h : Host) : Relay × Host :=
  match i with
  | .client _ =>
      let h := h.meet i
      let (r, h) := readClientAll h.waiting.length r h
      (r.forwardAll, h)
  | .hangUp | .wake | .readFault _ =>
      let (r, h) := r.readClient (h.meet i)
      (r.forwardAll, h)
  | .drain _ => r.wake (h.meet i)
  | .advance span =>
      let target := Clock.after h.now span
      let (r, h) := r.run target (r.fromDevice.length + 1) h
      r.run target (r.fromDevice.length + 1) { h with now := target }
  | .room _ | .fault _ _ | .signal => (r, h.meet i)

def deviceSends (data : Bytes) (r : Relay) (h : Host) : Relay × Host :=
  passAll { r with fromDevice := r.fromDevice ++ data } h

def deviceEnds (r : Relay) (h : Host) : Relay × Host := passAll { r with deviceEnded := true } h

end Relay

end Breadboard
