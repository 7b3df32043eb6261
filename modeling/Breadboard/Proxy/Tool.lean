import Breadboard.CommandLine.Exit
import Breadboard.Proxy.Relay

/-! The proxy as a tool: from its command line to its end, with the recording saved. -/

namespace Breadboard

structure ProxyTool where
  folder : Folder
  host : Host
  options : ProxyOptions := {}
  relay : Relay
  exit : Option Exit := none

namespace ProxyTool

def output? (o : ProxyOptions) : Option Text := o.output.toOption.filter (!·.isEmpty)

def taken? (o : ProxyOptions) (f : Folder) : Option Text :=
  (output? o).filter fun path => !o.overwrite && (f.entry? path).isSome

def takenMessage (path : Text) : Text :=
  path ++ text " already exists; pass --overwrite to replace it"

def launch (t : ProxyTool) : ProxyTool :=
  match t.relay.start t.host with
  | (.ok (), relay, host) => { t with relay, host }
  | (.error (.reset cause), relay, host) => { t with relay, host, exit := some (.reset cause) }
  | (.error (.channel fault), relay, host) =>
      { t with relay, host, exit := some (.ofChannel fault) }
  | (.error fault, relay, host) => { t with relay, host, exit := some (.failed fault.message) }

def start (env : Environment) (arguments : List Text) (folder : Folder) (host : Host) (link : Link)
    (bus : SerialBus) : ProxyTool :=
  let idle := Relay.of none none 0 0 false link bus
  let t : ProxyTool := { folder, host, relay := idle }
  match ProxyOptions.read env arguments with
  | .help => { t with exit := some .help }
  | .refused fault => { t with exit := some (.usage fault) }
  | .options o =>
      let (log, _) := o.log.setup env
      match log.openFile folder with
      | .error exit => { t with exit := some exit }
      | .ok folder =>
          let relay := Relay.of o.realPort.toOption o.port.toOption (o.baudRate.toOption.getD 0)
            (o.bufferSize.toOption.getD 0) o.quiet link bus
          let t := { t with folder, options := o, relay }
          match taken? o folder with
          | some path => { t with exit := some (.failed (takenMessage path)) }
          | none => t.launch

def stop (t : ProxyTool) : ProxyTool :=
  let (recording, relay, host) := t.relay.stop t.host
  let t := { t with relay, host }
  match output? t.options with
  | none => { t with exit := some .done }
  | some path =>
      let port := t.options.port.toOption.filter (!·.isEmpty)
      match Config.save t.folder path t.options.overwrite port recording with
      | .ok folder => { t with folder, exit := some .done }
      | .error fault => { t with exit := some (.ofFile fault) }

def live (change : Relay → Host → Relay × Host) (t : ProxyTool) : ProxyTool :=
  match t.exit with
  | some _ => t
  | none =>
      let (relay, host) := change t.relay t.host
      { t with relay, host }

def meet (i : Incident) (t : ProxyTool) : ProxyTool :=
  match i with
  | .signal => if t.exit.isSome then t else t.stop
  | i => t.live (Relay.meet i)

def finish (t : ProxyTool) : ProxyTool := t.meet .signal

end ProxyTool

end Breadboard
