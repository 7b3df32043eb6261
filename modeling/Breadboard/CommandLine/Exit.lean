import Breadboard.CommandLine.Tools
import Breadboard.Config.File
import Breadboard.Response.Engine
import Breadboard.Terminal.Channel

/-! How the tools begin and end: the log is set up first, and faults that are no part of the work
end a tool at once. -/

namespace Breadboard

inductive Exit where
  | done
  /-- A fault was reported. -/
  | failed (reason : Text)
  | help
  | usage (fault : CommandLineFault)
  /-- The log file cannot be written. -/
  | logFile (path : Text) (fault : PathFault)
  /-- A configuration file that not even a fault can be told of. -/
  | file (fault : Config.FileFault)
  | rule (fault : RuleFault)
  /-- The real port could not be reset. -/
  | reset (cause : Text)
  /-- A port could not be opened, for a fault that is not looked out for. -/
  | port (fault : ChannelFault)

namespace Exit

def ofFile (fault : Config.FileFault) : Exit :=
  if fault.isReported then .failed fault.message else .file fault

def ofChannel (fault : ChannelFault) : Exit :=
  if fault.isReported then .failed fault.message else .port fault

def ofRule (fault : RuleFault) : Exit :=
  match fault.cause with
  | .malformed => .failed fault.message
  | _ => .rule fault

end Exit

namespace LogSetup

def openFile (s : LogSetup) (f : Folder) : Except Exit Folder :=
  match s.file with
  | none => .ok f
  | some path =>
      match f.touch (Path.place path).path with
      | .ok f => .ok f
      | .error fault => .error (.logFile path fault)

end LogSetup

end Breadboard
