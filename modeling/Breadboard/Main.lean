import Breadboard.Emulator.Tool
import Breadboard.Proxy.Tool

/-! The tools on standard input and output, which take the place of the terminal: each line that is
read is what the client writes at once, and what the terminal takes is printed. The first argument
names the tool. -/

namespace Breadboard.Main

def shown (s : Text) : String :=
  String.ofList (s.filterMap fun
    | .char c => some c
    | .lone _ => none)

def printError (tool : String) (message : Text) : IO Unit :=
  IO.eprintln s!"{tool}: error: {shown message}"

def environment : IO Environment := do
  let names := ["JUMPERLESS_CONFIG", "JUMPERLESS_VIRTUAL_PORT", shown LogLevel.askedBy]
  let found ← names.filterMapM fun name => do
    return (← IO.getEnv name).map fun value => (text name, text value)
  return found

def folder (paths : List (Option Text)) : IO Folder := do
  let paths := paths.filterMap id
  let files : Folder ← paths.filterMapM fun path => do
    try
      let content ← IO.FS.readBinFile (shown path)
      return some ((Path.place path).path, .file content.toList)
    catch _ => return none
  return files ++ paths.map fun path => ((Path.place path).parent.path, .folder)

def dice : IO Dice := do
  let draws ← (List.range 1024).mapM fun _ => IO.rand 0 999999
  return .ofList (draws.map Int.ofNat)

def write (out : IO.FS.Stream) (data : List (Nat × Bytes)) : IO Unit := do
  for (_, bytes) in data do
    out.write ⟨bytes.toArray⟩
  out.flush

def sleep (span : Nat) : IO Unit := IO.sleep (.ofNat (Clock.microseconds span / 1000))

def report (tool : String) : Exit → IO UInt32
  | .done => return 0
  | .failed reason => do
      printError tool reason
      return 1
  | .help => do
      IO.println s!"usage: {tool} [options]"
      return 0
  | .usage fault => do
      printError tool fault.message
      return 2
  | .logFile path _ | .reset path => do
      printError tool path
      return 1
  | .file fault => do
      printError tool fault.message
      return 1
  | .rule fault => do
      printError tool fault.message
      return 1
  | .port fault => do
      printError tool fault.message
      return 1

/-- Waits for what is due, and for the client where nothing is, until the client ends. -/
partial def emulate (input output : IO.FS.Stream) (t : EmulatorTool) : IO EmulatorTool := do
  write output t.host.sent
  let t := { t with host := { t.host with sent := [] } }
  if t.exit.isSome then return t
  match t.device.bind (·.alarm?) with
  | some (time, _) =>
      sleep (time - t.host.now)
      emulate input output (t.meet (.advance (time - t.host.now)))
  | none =>
      let line ← input.getLine
      if line.isEmpty then emulate input output t.finish
      else emulate input output (t.meet (.client line.toUTF8.toList))

def emulator (arguments : List Text) : IO UInt32 := do
  let env ← environment
  let paths :=
    match EmulatorOptions.read env arguments with
    | .options o => [o.config.toOption, o.log.file.toOption]
    | _ => []
  let t := EmulatorTool.start env arguments (← dice) (← folder paths) {}
  let t ← emulate (← IO.getStdin) (← IO.getStdout) t
  report EmulatorOptions.tool (t.exit.getD .done)

/-- The state of a proxy, shared by the reader of the device and that of the client, and when it
began. -/
structure Session where
  tool : IO.Ref ProxyTool
  began : Nat

namespace Session

/-- Lets something happen now; gives what is to be sent to the device and to the client, and what
is to be shown. -/
def step (s : Session) (change : ProxyTool → ProxyTool) :
    IO (List LinkCall × List (Nat × Bytes) × List Text × Option Exit) := do
  let now := ((← IO.monoMsNow) - s.began) * (Clock.ticksPerSecond / 1000)
  s.tool.modifyGet fun t =>
    let t := change (t.meet (.advance (now - t.host.now)))
    ((t.relay.link.calls, t.host.sent, t.relay.shown, t.exit),
      { t with
        host := { t.host with sent := [] }
        relay := { t.relay with shown := [], link := { t.relay.link with calls := [] } } })

def perform (device : IO.FS.Handle) (output : IO.FS.Stream) (s : Session)
    (change : ProxyTool → ProxyTool) : IO Unit := do
  let (calls, sent, shown, _) ← s.step change
  for call in calls do
    match call with
    | .send data =>
        device.write ⟨data.toArray⟩
        device.flush
    | _ => pure ()
  write output sent
  for line in shown do
    IO.eprintln (Main.shown line)

/-- Passes on what the device sends, until it ends. -/
partial def readDevice (device : IO.FS.Handle) (output : IO.FS.Stream) (s : Session) : IO Unit := do
  let line ← device.getLine
  if line.isEmpty then s.perform device output (·.live Relay.deviceEnds)
  else
    s.perform device output (·.live (Relay.deviceSends line.toUTF8.toList))
    readDevice device output s

/-- Passes on what the client sends, until it ends. -/
partial def readClient (device : IO.FS.Handle) (input output : IO.FS.Stream) (s : Session) :
    IO Unit := do
  let line ← input.getLine
  if line.isEmpty then s.perform device output ProxyTool.finish
  else
    s.perform device output (·.meet (.client line.toUTF8.toList))
    readClient device input output s

end Session

def keep (t : ProxyTool) : IO Unit := do
  match (ProxyTool.output? t.options).bind fun path => (t.folder.content? path).map (path, ·) with
  | some (path, content) => IO.FS.writeBinFile (shown path) ⟨content.toArray⟩
  | none => pure ()

def proxy (arguments : List Text) : IO UInt32 := do
  let env ← environment
  let o :=
    match ProxyOptions.read env arguments with
    | .options o => o
    | _ => {}
  let device : Option IO.FS.Handle ←
    try
      match o.realPort.toOption with
      | some port => pure (some (← IO.FS.Handle.mk (shown port) .readWrite))
      | none => pure none
    catch _ => pure none
  let link : Link := { connectFault := if device.isNone then some .missing else none }
  let files ← folder [o.output.toOption, o.log.file.toOption]
  let t := ProxyTool.start env arguments files {} link ⟨[], 0, []⟩
  match t.exit, device with
  | none, some device =>
      let s : Session := ⟨← IO.mkRef t, ← IO.monoMsNow⟩
      let output ← IO.getStdout
      let _ ← IO.asTask (s.readDevice device output) .dedicated
      s.readClient device (← IO.getStdin) output
      let t ← s.tool.get
      keep t
      report ProxyOptions.tool (t.exit.getD .done)
  | exit, _ => report ProxyOptions.tool (exit.getD .done)

end Breadboard.Main

def main (arguments : List String) : IO UInt32 :=
  match arguments with
  | "emulator" :: rest => Breadboard.Main.emulator (rest.map Breadboard.text)
  | "proxy" :: rest => Breadboard.Main.proxy (rest.map Breadboard.text)
  | _ => do
      IO.eprintln "usage: emulator | proxy, and options"
      return 2
