import Breadboard.Response.Basic
import Breadboard.Text.Blank
import Breadboard.Text.Quoted
import Breadboard.Text.Utf8

/-! The recorder turns a conversation into mappings. Each request begins a response of its own; each
read that follows becomes one of its chunks, timed from the event before. One reader decodes all
reads of a response, so a character may be split between them. -/

namespace Breadboard

structure Take where
  request : Text
  chunks : List Chunk := []
  reader : Utf8.Reader := none
  lastEvent : Float

structure Recorder where
  mappings : Mappings := []
  take : Option Take := none

namespace Recorder

/-- The jitter of a recorded chunk, as a part of its delay. -/
def jitterPart : Float := 0.1

/-- The text of a request; one of blanks only is none. -/
def requestOf (data : Bytes) : Text := (Utf8.decodeReplacing data).trim

/-- The time between two events, or none if the clock went back. -/
def elapsed (since now : Float) : Float :=
  let gap := now - since
  if gap < 0.0 then 0.0 else gap

end Recorder

namespace Take

def add (now : Float) (data : Bytes) (t : Take) : Take :=
  let delay := Recorder.elapsed t.lastEvent now
  let (pieces, reader) := Utf8.run t.reader data
  let chunk : Chunk := {
    data := Quoted.encode (pieces.flatMap Utf8.Piece.escaped)
    delay, jitter := delay * Recorder.jitterPart }
  { t with chunks := t.chunks ++ [chunk], reader, lastEvent := now }

def tail (t : Take) : List Chunk :=
  match (Utf8.finish t.reader).flatMap Utf8.Piece.escaped with
  | [] => []
  | s => [{ data := Quoted.encode s }]

def response (t : Take) : Response := { chunks := t.chunks ++ t.tail }

end Take

namespace Recorder

def finish (r : Recorder) : Recorder :=
  match r.take with
  | none => r
  | some t => { mappings := r.mappings.addResponses t.request [t.response] }

def request (now : Float) (data : Bytes) (r : Recorder) : Recorder :=
  match requestOf data with
  | [] => r
  | s => { r.finish with take := some { request := s, lastEvent := now } }

def response (now : Float) (data : Bytes) (r : Recorder) : Recorder :=
  { r with take := r.take.map (·.add now data) }

end Recorder

end Breadboard
