import Breadboard.CommandLine.Switch

/-! The reading of a command line. First each argument is classified by itself; then the switches
take effect, in order, with the values that follow them. -/

namespace Breadboard

/-- What an argument is: a plain one, one that looks like a switch and is none, or a switch by one
of its names, perhaps with a value in the same argument. -/
inductive Argument (σ : Type) where
  | plain
  | separator
  | stranger
  | switch (found : Switch σ) (short : Bool) (value : Option Text)

namespace Argument

variable {σ : Type}

def named? (switches : List (Switch σ)) (name : Text) : Option (Switch σ) :=
  switches.find? fun s => s.names.any fun n => text n == name

def isShort (name : Text) : Bool := name.drop 1 |>.head? |>.any (· ≠ .char '-')

def assignment? (switches : List (Switch σ)) (arg : Text) : Option (Argument σ) :=
  (Text.cut? (text "=") arg).bind fun (name, value) =>
    (named? switches name).map fun s => .switch s (isShort name) (some value)

def completions (switches : List (Switch σ)) (start : Text) : List (String × Switch σ) :=
  switches.flatMap fun s =>
    (s.names.filter fun n => (text n).startsWith start).map fun n => (n, s)

def isNegative (arg : Text) : Bool :=
  let body := arg.drop 1
  let body := if body.getLast? = some (.char '\n') then body.dropLast else body
  let rest := body.dropWhile CodePoint.isDigit
  (rest.isEmpty && !body.isEmpty) ||
    match rest with
    | .char '.' :: fraction => !fraction.isEmpty && fraction.all CodePoint.isDigit
    | _ => false

def unnamed (arg : Text) : Argument σ :=
  if isNegative arg || arg.elem (.char ' ') then .plain else .stranger

def abbreviation (switches : List (Switch σ)) (arg : Text) :
    Except CommandLineFault (Argument σ) :=
  if isShort arg then
    match named? switches (arg.take 2) with
    | some s => .ok (.switch s true (some (arg.drop 2)))
    | none => .ok (unnamed arg)
  else
    let (start, value) :=
      match Text.cut? (text "=") arg with
      | some (start, value) => (start, some value)
      | none => (arg, none)
    match completions switches start with
    | [] => .ok (unnamed arg)
    | [(_, s)] => .ok (.switch s false value)
    | several => .error (.ambiguous arg (several.map (·.1)))

def classify (switches : List (Switch σ)) (arg : Text) : Except CommandLineFault (Argument σ) :=
  match arg with
  | .char '-' :: _ :: _ =>
      match named? switches arg with
      | some s => .ok (.switch s (isShort arg) none)
      | none =>
          match assignment? switches arg with
          | some found => .ok found
          | none => abbreviation switches arg
  | _ => .ok .plain

/-- The arguments with what they are; after a separator all are plain. -/
def classifyAll (switches : List (Switch σ)) :
    List Text → Except CommandLineFault (List (Text × Argument σ))
  | [] => .ok []
  | arg :: rest =>
      if arg = text "--" then .ok ((arg, .separator) :: rest.map (·, .plain))
      else do return (arg, ← classify switches arg) :: (← classifyAll switches rest)

/-- The switches in one argument, of which the last may have a value in it too. -/
def cluster (switches : List (Switch σ)) (s : Switch σ) (short : Bool) :
    (value : Text) → Except CommandLineFault (List (Switch σ) × Option Text)
  | [] =>
      match s.effect with
      | .value .. => .ok ([s], some [])
      | _ => .error (.extraValue s.names [])
  | c :: rest =>
      match s.effect with
      | .value .. => .ok ([s], some (c :: rest))
      | _ =>
          if !short then .error (.extraValue s.names (c :: rest))
          else match named? switches [.char '-', c] with
            | none => .error (.extraValue s.names (c :: rest))
            | some next =>
                if rest.isEmpty then .ok ([s, next], none)
                else (cluster switches next true rest).map fun (more, value) => (s :: more, value)

end Argument

namespace CommandLine

variable {σ : Type}

inductive Stop where
  | help
  | fault (fault : CommandLineFault)

/-- A switch takes effect. The argument that ends the switches is no value. -/
def take (s : Switch σ) (value : Option Text) (o : σ) : Except Stop σ :=
  match s.effect, value with
  | .help, _ => .error .help
  | .flag set, _ => .ok (set o)
  | .value .., none => .error (.fault (.noValue s.names))
  | .value set clear, some value =>
      if value = text "--" then .ok (clear o)
      else match set value o with
        | .ok o => .ok o
        | .error fault => .error (.fault (.badValue s.names fault))

def takeAll (value : Option Text) : List (Switch σ) → σ → Except Stop σ
  | [], o => .ok o
  | [s], o => take s value o
  | s :: rest, o => do takeAll value rest (← take s none o)

def takesValue (s : Switch σ) : Bool :=
  match s.effect with
  | .value .. => true
  | _ => false

/-- Lets the switches take effect. Those that wait are waiting for the value of the last of them;
the arguments that belong to no switch are strays. -/
def run (switches : List (Switch σ)) : (waiting : List (Switch σ)) → List (Text × Argument σ) →
    (strays : List Text) → σ → Except Stop (List Text × σ)
  | waiting, [], strays, o =>
      match waiting.getLast? with
      | none => .ok (strays, o)
      | some s => .error (.fault (.noValue s.names))
  | waiting, (arg, argument) :: rest, strays, o =>
      match waiting.getLast?, argument with
      | some _, .plain =>
          match takeAll (some arg) waiting o with
          | .ok o => run switches [] rest strays o
          | .error stop => .error stop
      | some s, _ => .error (.fault (.noValue s.names))
      | none, .switch s short value =>
          match value.elim (.ok ([s], none)) (Argument.cluster switches s short) with
          | .error fault => .error (.fault fault)
          | .ok (found, value) =>
              if value.isNone && found.getLast?.any takesValue then
                run switches found rest strays o
              else match takeAll value found o with
                | .ok o => run switches [] rest strays o
                | .error stop => .error stop
      | none, _ => run switches [] rest (strays ++ [arg]) o

def read (switches : List (Switch σ)) (initial : σ) (arguments : List Text) : CommandLine σ :=
  match Argument.classifyAll switches arguments with
  | .error fault => .refused fault
  | .ok found =>
      match run switches [] found [] initial with
      | .error .help => .help
      | .error (.fault fault) => .refused fault
      | .ok ([], o) => .options o
      | .ok (strays, _) => .refused (.unrecognized strays)

end CommandLine

end Breadboard
