import Breadboard.Config.Data
import Breadboard.Config.Reader
import Breadboard.Data.Folder
import Breadboard.Data.Json.Reader
import Breadboard.Data.Json.Writer
import Breadboard.Data.Yaml.Reader
import Breadboard.Data.Yaml.Writer

/-! Configuration files. The end of a file's name tells its format. -/

namespace Breadboard.Config

inductive FileFault where
  | unreadable (path : Text)
  /-- Bytes that are no text. -/
  | notText
  /-- A scalar that is worth nothing. -/
  | scalar (fault : Yaml.Fault)
  | config (fault : Fault)
  | exists (path : Text)
  | unknownFormat (path : Text)
  | unwritable (path : Text)
  /-- A path that no file can have. -/
  | unnamable (fault : PathFault)
  /-- A text that no bytes stand for. -/
  | unencodable

def FileFault.message : FileFault → Text
  | .unreadable path => text "failed to read config file " ++ path ++ text ": "
  | .notText => []
  | .scalar _ => []
  | .config fault => fault.message
  | .exists path => path ++ text " already exists; refusing to overwrite it"
  | .unknownFormat path =>
      text "unsupported output format for " ++ path ++ text "; use .yaml, .yml or .json"
  | .unwritable path => text "failed to write " ++ path ++ text ": "
  | .unnamable _ => []
  | .unencodable => []

def FileFault.isReported : FileFault → Bool
  | .notText => false
  | .scalar _ => false
  | .config fault => fault.isReported
  | .unnamable _ => false
  | .unencodable => false
  | _ => true

def FileFault.ofWrite (path : Text) (fault : PathFault) : FileFault :=
  if fault.isUnasked then .unnamable fault else .unwritable path

def isYaml (path : Text) : Bool :=
  path.lower.endsWith (text ".yaml") || path.lower.endsWith (text ".yml")

def isJson (path : Text) : Bool := path.lower.endsWith (text ".json")

def dataOf (path : Text) (content : Bytes) : Except FileFault Value :=
  if isYaml path then
    match Yaml.read content with
    | .ok v => .ok v
    | .error .malformed => .error (.unreadable path)
    | .error .notText => .error .notText
    | .error fault => .error (.scalar fault)
  else
    match Utf8.decode? content with
    | none => .error .notText
    | some s =>
        match Json.read s with
        | .ok v => .ok v
        | .error .malformed => .error (.unreadable path)
        | .error .longInteger => .error (.scalar .badNumber)
        | .error .tooDeep => .error (.scalar .tooDeep)

/-- The configuration in a file. Where there is no path or no file, it is the stock one. -/
def load (f : Folder) (path : Option Text) : Except FileFault Config :=
  match path with
  | none => .ok stock
  | some path =>
      match f.entry? path with
      | none => .ok stock
      | some .folder => .error (.unreadable path)
      | some (.file content) =>
          match dataOf path content with
          | .error fault => .error fault
          | .ok data =>
              match ofValue data with
              | .ok c => .ok c
              | .error fault => .error (.config fault)

def textOf? (path : Text) (data : Value) : Option Text :=
  if isYaml path then some (Yaml.file data)
  else if isJson path then some (Json.file data)
  else none

def save (f : Folder) (path : Text) (overwrite : Bool) (port : Option Text) (ms : Mappings) :
    Except FileFault Folder :=
  if (f.entry? path).isSome ∧ !overwrite then .error (.exists path)
  else
    match textOf? path (recordingData port ms) with
    | none => .error (.unknownFormat path)
    | some content =>
        match f.write path ((Utf8.encode? content).getD []) with
        | .error fault => .error (.ofWrite path fault)
        | .ok f => if content.any CodePoint.isLone then .error .unencodable else .ok f

end Breadboard.Config
