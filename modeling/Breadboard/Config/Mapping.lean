import Breadboard.Config.Basic
import Breadboard.Pattern.Reader

/-! Mappings read from data. -/

namespace Breadboard.Config.Reading

/-- A chunk: a text, or a table with a text and delays. -/
def chunk : Value → Reading Chunk
  | .text data => .ok { data }
  | v => do
      let t ← tableOf v
      return {
        data := ← textOf (fieldOr t "data" (.text []))
        delay := ← duration (field t "delay")
        jitter := ← duration (field t "jitter_max") }

/-- A response: a text, or a table with a weight and either chunks or one text. -/
def response : Value → Reading Response
  | .text data => .ok (.ofText data 1)
  | .table t => do
      let weight ← integer (given (field t "weight") (.int 1))
      if Dict.has t (text "chunks") then
        return { chunks := ← (← members (field t "chunks")).mapM chunk, weight }
      else return .ofText (← textOf (fieldOr t "response" (.text []))) weight
  | v => .error ((Fault.response v).about v)

def selections : List (String × Selection) :=
  [("sequential", .sequential), ("random", .random), ("weighted", .weighted)]

def selection (v : Value) : Reading Selection :=
  match given v (.text (text "sequential")) with
  | .text s =>
      match selections.find? fun (name, _) => text name = s with
      | some (_, mode) => .ok mode
      | none => .error (.selection (.text s))
  | v => .error ((Fault.selection v).about v)

def manner (t : Table) : Reading Manner := do
  let selection ← selection (field t "selection_mode")
  return {
    delay := ← duration (field t "delay")
    jitter := ← duration (field t "jitter_max")
    segmented := (field t "chunked").isGiven
    segmentSize := ← integer (given (field t "chunk_size") (.int 0))
    segmentDelay := ← duration (field t "chunk_delay")
    selection }

/-- The responses of a mapping: a single one, if it is given, goes before a list of them. -/
def responses (t : Table) : Reading (List Response) := do
  let single := field t "response"
  if single.isGiven then return [.ofText (← textOf single) 1]
  else (← members (field t "responses")).mapM response

def checkPattern (index : Nat) (m : Mapping) : Reading Mapping :=
  if m.isPattern then
    match Regex.read m.request with
    | .ok _ => .ok m
    | .error .malformed => .error (.pattern index m.request)
    | .error .tooMany => .error .tooLarge
    | .error .tooDeep => .error .tooDeep
    | .error .invalid => .error .wrongKind
  else .ok m

def mapping (index : Nat) : Value → Reading Mapping
  | .table t => do
      match Dict.get? t (text "request") with
      | none => .error (.noRequest index)
      | some request =>
          let responses ← responses t
          if responses.isEmpty then .error ((Fault.noResponses index request).about request)
          else
            checkPattern index {
              request := ← textOf request
              isPattern := (field t "is_regex").isGiven
              responses
              manner := ← manner (← section? t "response_config") }
  | .list items =>
      let named := items.any fun | .text s => s = text "request" | _ => false
      .error (if named then .wrongKind else .noRequest index)
  | .set members =>
      let named := members.any fun | .text s => s = text "request" | _ => false
      .error (if named then .wrongKind else .noRequest index)
  | .pair v w =>
      let named := [v, w].any fun | .text s => s = text "request" | _ => false
      .error (if named then .wrongKind else .noRequest index)
  | .text s => .error (if s.contains (text "request") then .wrongKind else .noRequest index)
  | _ => .error .wrongKind

def mappingsFrom (index : Nat) : List Value → Reading Mappings
  | [] => .ok []
  | v :: rest => do return (← mapping index v) :: (← mappingsFrom (index + 1) rest)

def mappings (v : Value) : Reading Mappings := do mappingsFrom 0 (← members v)

end Breadboard.Config.Reading
