import Breadboard.CommandLine.Exit
import Breadboard.Emulator.Device

/-! The emulator as a tool: from its command line to its end. -/

namespace Breadboard

structure EmulatorTool where
  folder : Folder
  host : Host
  log : Option LogSetup := none
  device : Option VirtualDevice := none
  exit : Option Exit := none

namespace EmulatorTool

def device? (o : EmulatorOptions) (c : Config) (dice : Dice) : Except Exit VirtualDevice :=
  match Engine.ofMappings c.mappings c.board dice with
  | .error fault => .error (.ofRule fault)
  | .ok engine =>
      let port := ((o.port.toOption.filter (!·.isEmpty)).map PortName.path) <|>
        c.port.bind PortName.ofValue?
      let bufferSize := (o.bufferSize.toOption.filter (· ≠ 0)).getD c.bufferSize
      .ok (.of engine port bufferSize c.drainTimeout)

def launch (o : EmulatorOptions) (dice : Dice) (t : EmulatorTool) : EmulatorTool :=
  match Config.load t.folder o.config.toOption with
  | .error fault => { t with exit := some (.ofFile fault) }
  | .ok c =>
      match device? o c dice with
      | .error exit => { t with exit := some exit }
      | .ok device =>
          match device.start t.host with
          | (.error (.channel fault), _, host) => { t with host, exit := some (.ofChannel fault) }
          | (.error fault, _, host) => { t with host, exit := some (.failed fault.message) }
          | (.ok (), device, host) => { t with host, device := some device }

def start (env : Environment) (arguments : List Text) (dice : Dice) (folder : Folder)
    (host : Host) : EmulatorTool :=
  let t : EmulatorTool := { folder, host }
  match EmulatorOptions.read env arguments with
  | .help => { t with exit := some .help }
  | .refused fault => { t with exit := some (.usage fault) }
  | .options o =>
      let (log, _) := o.log.setup env
      let t := { t with log := some log }
      match log.openFile folder with
      | .error exit => { t with exit := some exit }
      | .ok folder => launch o dice { t with folder }

def settle (device : VirtualDevice) (host : Host) (t : EmulatorTool) : EmulatorTool :=
  { t with host, device := some device, exit := if device.isStopped then some .done else none }

/-- What an incident is to the tool; once it has ended, it is nothing. A signal stops the device. -/
def meet (i : Incident) (t : EmulatorTool) : EmulatorTool :=
  match t.exit, t.device with
  | none, some device =>
      match i with
      | .signal => let (device, host) := device.drain t.host; t.settle device host
      | i => let (device, host) := device.meet i t.host; t.settle device host
  | _, _ => t

def finish (t : EmulatorTool) : EmulatorTool :=
  match t.exit, t.device with
  | none, some device =>
      let (device, host) := device.stop t.host
      let (device, host) := if device.isStopped then (device, host) else device.run none host
      t.settle device host
  | _, _ => t

end EmulatorTool

end Breadboard
