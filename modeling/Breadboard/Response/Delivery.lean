import Breadboard.Data.Segment
import Breadboard.Response.Capture
import Breadboard.Response.Dice
import Breadboard.Response.Placeholder
import Breadboard.Text.Literal

/-! The delivery of a response as a plan of acts, and how a plan is carried out on an outlet that
takes bytes at once. -/

namespace Breadboard

inductive DeliveryFault where
  | noResponses (index : Nat) (request : Text)
  | shortWrite (accepted : Int) (offered : Nat)
  | unencodable (s : Text)
  /-- A reference to a group by a number of too many digits. -/
  | endlessReference
  /-- A placeholder of a pin whose value has too many digits. -/
  | endlessValue
  deriving DecidableEq

def DeliveryFault.message : DeliveryFault → Text
  | .noResponses index request =>
      text "Mapping " ++ Text.ofNat index ++ text " (" ++ request.display ++
        text ") has no responses configured"
  | .shortWrite accepted offered =>
      text "Wrote " ++ Text.ofInt accepted ++ text " of " ++ Text.ofNat offered ++ text " bytes"
  | .unencodable s => text "Cannot encode response chunk " ++ s.display ++ text ": "
  | .endlessReference | .endlessValue => []

/-- One act of a delivery: a wait with jitter, a plain pause, a write, or the end in a fault. -/
inductive Act where
  | wait (delay jitter : Float)
  | pause (seconds : Float)
  | write (data : Bytes)
  | fail (fault : DeliveryFault)

namespace Act

/-- A wait, unless neither its delay nor its jitter is positive. -/
def waiting (delay jitter : Float) : List Act :=
  if delay <= 0.0 && jitter <= 0.0 then [] else [.wait delay jitter]

def spaced (delay : Float) : List Bytes → List Act
  | [] => []
  | [data] => [.write data]
  | data :: rest => .write data :: (if 0.0 < delay then [.pause delay] else []) ++ spaced delay rest

def sendBytes (m : Manner) (data : Bytes) : List Act :=
  if m.segmented && 0 < m.segmentSize then
    spaced m.segmentDelay (segments m.segmentSize.toNat data)
  else [.write data]

def sendText (m : Manner) (b : Board) (s : Text) : List Act :=
  if s.isEmpty then []
  else
    match Placeholder.resolve? b s with
    | none => [.fail .endlessValue]
    | some s =>
        match Utf8.encode? s with
        | some data => sendBytes m data
        | none => [.fail (.unencodable s)]

def render (found : Option Match) (data : Text) : Except IntegerFault Text :=
  let s := Literal.decode data
  match found with
  | none => .ok s
  | some m => m.expand s

/-- Sends chunks one after another. What could be the beginning of a placeholder is held back and
sent with the next chunk. -/
def sendChunks (m : Manner) (b : Board) (found : Option Match) : (held : Text) → List Chunk →
    List Act
  | _, [] => []
  | held, c :: rest =>
      waiting c.delay c.jitter ++
        match render found c.data with
        | .error _ => [.fail .endlessReference]
        | .ok s =>
            let (now, held) :=
              if rest.isEmpty then (held ++ s, []) else Placeholder.splitOpen (held ++ s)
            sendText m b now ++ sendChunks m b found held rest

def plan (m : Manner) (b : Board) (found : Option Match) (r : Response) : List Act :=
  waiting m.delay m.jitter ++ sendChunks m b found [] r.chunks

def waitTime (delay jitter : Float) (d : Dice) : Float × Dice :=
  if 0.0 < jitter then
    let (extra, d) := d.upTo jitter
    (delay + extra, d)
  else (delay, d)

end Act

/-- What an outlet takes of a write: all of it, no more than some bytes, or all of it without
saying so. -/
inductive Outlet where
  | all
  | most (n : Int)
  | mute

namespace Outlet

def accepts : Outlet → (offered : Nat) → Option Int
  | .all, offered => some offered
  | .most n, offered => some (min n offered)
  | .mute, _ => none

inductive Event where
  | slept (seconds : Float)
  | wrote (data : Bytes)

def perform (o : Outlet) (d : Dice) : List Act → List Event × Dice × Option DeliveryFault
  | [] => ([], d, none)
  | .wait delay jitter :: rest =>
      let (seconds, d) := Act.waitTime delay jitter d
      let (events, out) := perform o d rest
      (.slept seconds :: events, out)
  | .pause seconds :: rest =>
      let (events, out) := perform o d rest
      (.slept seconds :: events, out)
  | .write data :: rest =>
      match o.accepts data.length with
      | some n =>
          if n < data.length then ([.wrote data], d, some (.shortWrite n data.length))
          else
            let (events, out) := perform o d rest
            (.wrote data :: events, out)
      | none =>
          let (events, out) := perform o d rest
          (.wrote data :: events, out)
  | .fail fault :: _ => ([], d, some fault)

end Outlet

end Breadboard
