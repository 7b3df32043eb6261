import Breadboard.Data.Value
import Breadboard.Response.Basic

/-! Recorded mappings as data, in the spelling that recordings are kept in. What equals its default
is left out. -/

namespace Breadboard.Config

def chunkData (c : Chunk) : Value :=
  .table [(text "data", .text c.data), (text "delay", .float c.delay),
    (text "jitterMax", .float c.jitter)]

def responseData (r : Response) : Value :=
  .table ((text "chunks", .list (r.chunks.map chunkData)) ::
    if r.weight = 1 then [] else [(text "weight", .int r.weight)])

def mappingData (m : Mapping) : Value :=
  .table ([(text "request", .text m.request)] ++
    (if m.isPattern then [(text "isRegex", .bool true)] else []) ++
    [(text "responses", .list (m.responses.map responseData))])

def mappingsData (ms : Mappings) : Value := .list (ms.map mappingData)

def recordingData (port : Option Text) (ms : Mappings) : Value :=
  let ports : Table :=
    match port with
    | none | some [] => []
    | some name => [(text "virtualPort", .text name)]
  .table [(text "emulator", .table (ports ++ [(text "mappings", mappingsData ms)]))]

end Breadboard.Config
