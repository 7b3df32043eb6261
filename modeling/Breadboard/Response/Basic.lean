import Breadboard.Text.Basic

/-! Responses: what is sent for a request, piece by piece, and how. Delays are in seconds. -/

namespace Breadboard

structure Chunk where
  data : Text
  delay : Float := 0.0
  jitter : Float := 0.0

structure Response where
  chunks : List Chunk := []
  weight : Int := 1

namespace Response

def ofText (data : Text) (weight : Int) : Response := ⟨[{ data }], weight⟩

/-- The weight that counts in a choice; what is not positive counts as one. -/
def effectiveWeight (r : Response) : Nat := if 0 < r.weight then r.weight.toNat else 1

theorem effectiveWeight_pos (r : Response) : 0 < r.effectiveWeight := by
  unfold effectiveWeight
  split <;> omega

end Response

inductive Selection where
  | sequential
  | random
  | weighted
  deriving DecidableEq, Repr

/-- How a response is chosen and sent: what is waited for before it, and whether it is cut into
segments of one size. -/
structure Manner where
  delay : Float := 0.0
  jitter : Float := 0.0
  segmented : Bool := false
  segmentSize : Int := 0
  segmentDelay : Float := 0.0
  selection : Selection := .sequential

/-- The requests that are answered in one way: those that hold a text, or those in which a pattern
is found. -/
structure Mapping where
  request : Text
  isPattern : Bool := false
  responses : List Response := []
  manner : Manner := {}

abbrev Mappings := List Mapping

namespace Mappings

def find? (ms : Mappings) (request : Text) : Option Mapping := List.find? (·.request = request) ms

/-- Adds responses to the mapping for a request, which is appended if it is not there. -/
def addResponses (request : Text) (responses : List Response) : Mappings → Mappings
  | [] => [{ request, responses }]
  | m :: ms =>
      if m.request = request then { m with responses := m.responses ++ responses } :: ms
      else m :: addResponses request responses ms

end Mappings

end Breadboard
