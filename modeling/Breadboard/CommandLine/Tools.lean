import Breadboard.CommandLine.Reader
import Breadboard.Log.Level
import Breadboard.Number.Numeral

/-! The command lines of the two tools, the emulator and the proxy. -/

namespace Breadboard

structure LogOptions where
  verbose : Bool := false
  verbosity : Setting Text := .unset
  file : Setting Text := .unset

def LogOptions.setup (env : Environment) (o : LogOptions) : LogSetup × Option Text :=
  let env :=
    match o.verbosity.toOption with
    | none | some [] => env
    | some name => env.put LogLevel.askedBy name
  LogSetup.of env o.verbose o.file.toOption

structure EmulatorOptions where
  config : Setting Text := .unset
  port : Setting Text := .unset
  bufferSize : Setting Int := .unset
  log : LogOptions := {}

structure ProxyOptions where
  realPort : Setting Text := .unset
  port : Setting Text := .unset
  baudRate : Setting Int := .value 115200
  bufferSize : Setting Int := .value 1024
  output : Setting Text := .unset
  overwrite : Bool := false
  quiet : Bool := false
  log : LogOptions := {}

namespace Switch

variable {σ : Type}

def textValue (names : List String) (set : Setting Text → σ → σ) : Switch σ :=
  ⟨names, .value (fun value o => .ok (set (.value value) o)) (set .blank)⟩

def integerValue (names : List String) (set : Setting Int → σ → σ) : Switch σ :=
  ⟨names, .value (fun value o =>
    match readInteger value with
    | .ok i => .ok (set (.value i) o)
    | .error _ => .error (.notInteger value)) (set .blank)⟩

def choice (names choices : List String) (set : Setting Text → σ → σ) : Switch σ :=
  ⟨names, .value (fun value o =>
    if choices.any fun c => text c == value then .ok (set (.value value) o)
    else .error (.notAmong value (choices.map text))) (set .blank)⟩

def helping : Switch σ := ⟨["-h", "--help"], .help⟩

def logging (update : (LogOptions → LogOptions) → σ → σ) : List (Switch σ) := [
  ⟨["-v", "--verbose"], .flag (update fun l => { l with verbose := true })⟩,
  choice ["--verbosity"] (LogLevel.all.map LogLevel.name)
    fun name => update fun l => { l with verbosity := name },
  textValue ["-l", "--log-file"] fun path => update fun l => { l with file := path }]

end Switch

namespace EmulatorOptions

def tool : String := "jumperless-emulator"

def switches : List (Switch EmulatorOptions) := [
  .helping,
  .textValue ["-c", "--config"] fun path o => { o with config := path },
  .textValue ["--virtual-port"] fun path o => { o with port := path },
  .integerValue ["--buffer-size"] fun n o => { o with bufferSize := n }]
  ++ Switch.logging fun change o => { o with log := change o.log }

def initial (env : Environment) : EmulatorOptions where
  config := .ofOption (env.get? (text "JUMPERLESS_CONFIG"))
  port := .ofOption (env.get? (text "JUMPERLESS_VIRTUAL_PORT"))

def read (env : Environment) (arguments : List Text) : CommandLine EmulatorOptions :=
  .read switches (initial env) arguments

end EmulatorOptions

namespace ProxyOptions

def tool : String := "jumperless-proxy"

def switches : List (Switch ProxyOptions) := [
  .helping,
  .textValue ["--real-port"] fun path o => { o with realPort := path },
  .textValue ["--virtual-port"] fun path o => { o with port := path },
  .integerValue ["--baud-rate"] fun n o => { o with baudRate := n },
  .integerValue ["--buffer-size"] fun n o => { o with bufferSize := n },
  .textValue ["-o", "--output"] fun path o => { o with output := path },
  ⟨["--overwrite"], .flag fun o => { o with overwrite := true }⟩,
  ⟨["-q", "--quiet"], .flag fun o => { o with quiet := true }⟩]
  ++ Switch.logging fun change o => { o with log := change o.log }

def initial (env : Environment) : ProxyOptions where
  port := .ofOption (env.get? (text "JUMPERLESS_VIRTUAL_PORT"))

def read (env : Environment) (arguments : List Text) : CommandLine ProxyOptions :=
  .read switches (initial env) arguments

end ProxyOptions

end Breadboard
