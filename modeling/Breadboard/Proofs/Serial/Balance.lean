import Breadboard.Proofs.Serial.Handling
import Breadboard.Proofs.Serial.Hearing

/-! Openings and closings of a serial client over whole programs of its use, with ports
that fail as they like. Whatever is asked of a client, it holds at most one line, and
takes and gives back lines in turn. -/

namespace Breadboard

namespace SerialClient

variable {α : Type} {c c' c'' : SerialClient}

def Moves (c c' : SerialClient) : Prop :=
  ∃ made, c'.bus.calls = c.bus.calls ++ made ∧
    Handled c.line c.bus.opened made c'.line c'.bus.opened

theorem Moves.refl (c : SerialClient) : Moves c c :=
  ⟨[], (List.append_nil _).symm, .nil _ _⟩

theorem Moves.trans (first : Moves c c') (second : Moves c' c'') : Moves c c'' := by
  obtain ⟨made, calls, handled⟩ := first
  obtain ⟨made', calls', handled'⟩ := second
  exact ⟨made ++ made', by rw [calls', calls, List.append_assoc], handled.append handled'⟩

theorem moves_connect (c : SerialClient) : Moves c c.connect.2 := by
  rw [connect]
  cases there : c.line with
  | some line => exact .refl c
  | none =>
      dsimp only
      rw [SerialBus.openLine]
      cases c.bus.openFault? c.port with
      | some cause =>
          refine ⟨[.opening c.port c.baudRate none], rfl, ?_⟩
          rw [there]
          exact .refused (.nil none _)
      | none =>
          refine ⟨[.opening c.port c.baudRate (some ⟨c.port, c.bus.opened⟩)], rfl, ?_⟩
          rw [there]
          exact .opening (.nil _ _)

theorem disconnect_of_closed (closed : c.line = none) :
    c.disconnect = (.error (.serial (.notOpen c.port)), c) := by
  rw [disconnect, closed]

theorem disconnect_of_open {line : SerialLine} (there : c.line = some line) :
    c.disconnect.2 = { c with bus := c.bus.record [.close line], line := none } := by
  rw [disconnect, there]
  dsimp only
  rw [SerialBus.closeLine]
  cases (c.bus.find? line.port).bind (·.closeFault) <;> rfl

theorem line_disconnect (c : SerialClient) : c.disconnect.2.line = none := by
  cases there : c.line with
  | none => rw [disconnect_of_closed there, there]
  | some line => rw [disconnect_of_open there]

theorem moves_disconnect (c : SerialClient) : Moves c c.disconnect.2 := by
  cases there : c.line with
  | none =>
      rw [disconnect_of_closed there]
      exact .refl c
  | some line =>
      rw [disconnect_of_open there]
      refine ⟨[.close line], rfl, ?_⟩
      rw [there]
      exact .close (.nil none _)

/-- What may come of a question that is asked over the line of a client. -/
inductive Asked (c : SerialClient) : Except CommandFault Unit × SerialClient → Prop
  | closed (closed : c.line = none) : Asked c (.error (.serial (.notOpen c.port)), c)
  | failed {line : SerialLine} {bus : SerialBus} {fault : CommandFault}
      (there : c.line = some line) (used : c.bus.Used line bus) :
      Asked c (.error fault, { c with bus })
  | answered {line : SerialLine} {bus : SerialBus} {version : Option Text}
      (there : c.line = some line) (used : c.bus.Used line bus) :
      Asked c (.ok (), { c with bus, version })

def outcome (result : Except CommandFault α × SerialClient) :
    Except CommandFault Unit × SerialClient :=
  (result.1.map fun _ => (), result.2)

/-- Whatever is made of the reply to a command. -/
theorem asked_raw (made : Except CommandFault Text → Except CommandFault α)
    (faults : ∀ fault, made (.error fault) = .error fault) (command : Text) (wait : Wait)
    (c : SerialClient) :
    Asked c (outcome (made (c.raw command wait).1, (c.raw command wait).2)) := by
  cases there : c.line with
  | none =>
      rw [raw_of_closed there, outcome, faults]
      exact .closed there
  | some line =>
      obtain ⟨result, bus, done, used⟩ := raw_of_open there command wait
      rw [done, outcome]
      cases made result with
      | error fault => exact .failed there used
      | ok => exact .answered there used

theorem asked_probe (c : SerialClient) : Asked c (outcome c.probe) := by
  cases there : c.line with
  | none =>
      rw [probe, raw_of_closed there]
      exact .closed there
  | some line =>
      obtain ⟨result, bus, done, used⟩ := raw_of_open there (text "?") commandWait
      rw [probe, done]
      cases result with
      | error fault => exact .failed there used
      | ok reply => exact .answered there used

inductive Question where
  | raw (command : Text) (wait : Wait)
  | execute (command : Text) (wait : Wait)
  | probe
  | settings
  | nets
  | voltage (channel : DacChannel)

def Question.ask : Question → SerialClient → Except CommandFault Unit × SerialClient
  | .raw command wait, c => outcome (c.raw command wait)
  | .execute command wait, c => outcome (c.execute command wait)
  | .probe, c => outcome c.probe
  | .settings, c => outcome c.settings
  | .nets, c => outcome c.nets
  | .voltage channel, c => outcome (c.voltage channel)

theorem Question.asked (question : Question) (c : SerialClient) : Asked c (question.ask c) := by
  cases question with
  | raw command wait => exact asked_raw id (fun _ => rfl) command wait c
  | execute command wait =>
      exact asked_raw (unwrapped · Envelope.unwrap) (fun _ => rfl) (text ">" ++ command) wait c
  | probe => exact asked_probe c
  | settings => exact asked_raw (Except.map Settings.read) (fun _ => rfl) (text "~") settingsWait c
  | nets =>
      exact asked_raw netsOf (fun _ => rfl) (text ">" ++ text "print_nets()") commandWait c
  | voltage channel =>
      exact asked_raw (unwrapped · Envelope.voltage) (fun _ => rfl) _ commandWait c

namespace Asked

variable {result : Except CommandFault Unit × SerialClient}

theorem moves (asked : Asked c result) : Moves c result.2 := by
  have used : ∀ line (bus : SerialBus) version, c.line = some line → c.bus.Used line bus →
      Moves c { c with bus, version } := by
    intro line bus version there used
    obtain ⟨made, calls, each⟩ := used.calls
    refine ⟨made, calls, ?_⟩
    rw [there, used.opened]
    exact .uses each _
  cases asked with
  | closed => exact .refl c
  | failed there spoken => exact used _ _ c.version there spoken
  | answered there spoken => exact used _ _ _ there spoken

theorem of_closed (asked : Asked c result) (closed : c.line = none) :
    result = (.error (.serial (.notOpen c.port)), c) := by
  cases asked with
  | closed => rfl
  | failed there => simp [there] at closed
  | answered there => simp [there] at closed

theorem of_fault (asked : Asked c result) {fault : CommandFault}
    (failed : result.1 = .error fault) :
    result.2.line = c.line ∧ result.2.version = c.version := by
  cases asked with
  | closed => exact ⟨rfl, rfl⟩
  | failed => exact ⟨rfl, rfl⟩
  | answered => cases failed

end Asked

/-! Programs. -/

inductive Program where
  | nothing
  | connect
  | disconnect
  | ask (question : Question)
  /-- From now on the ports of the machine are these. -/
  | meanwhile (ports : List SerialPort)
  /-- The second only if nothing went wrong in the first. -/
  | next (first second : Program)
  /-- The second whatever came of the first. -/
  | anyway (first second : Program)
  /-- The body on a line that is opened for it and closed after it. -/
  | during (body : Program)

def Program.run : Program → SerialClient → Except CommandFault Unit × SerialClient
  | .nothing, c => (.ok (), c)
  | .connect, c => c.connect
  | .disconnect, c => c.disconnect
  | .ask question, c => question.ask c
  | .meanwhile ports, c => (.ok (), { c with bus := { c.bus with ports } })
  | .next first second, c =>
      match first.run c with
      | (.error fault, c) => (.error fault, c)
      | (.ok (), c) => second.run c
  | .anyway first second, c => second.run (first.run c).2
  | .during body, c => c.during body.run

theorem moves_during {task : SerialClient → Except CommandFault α × SerialClient}
    (moves : ∀ c, Moves c (task c).2) (c : SerialClient) : Moves c (c.during task).2 := by
  have opened := moves_connect c
  rw [SerialClient.during]
  generalize c.connect = result at opened
  obtain ⟨fault | _, c'⟩ := result
  · exact opened
  · have closed := (opened.trans (moves c')).trans (moves_disconnect (task c').2)
    dsimp only
    generalize (task c').2.disconnect = result at closed
    obtain ⟨fault | _, c''⟩ := result
    · exact closed
    · exact closed

theorem Program.moves (program : Program) (c : SerialClient) : Moves c (program.run c).2 := by
  induction program generalizing c with
  | nothing => exact .refl c
  | connect => exact moves_connect c
  | disconnect => exact moves_disconnect c
  | ask question => exact (question.asked c).moves
  | meanwhile ports => exact ⟨[], (List.append_nil _).symm, .nil _ _⟩
  | next first second ih ih' =>
      have moves := ih c
      rw [run]
      generalize first.run c = result at moves
      obtain ⟨fault | _, c'⟩ := result
      · exact moves
      · exact moves.trans (ih' c')
  | anyway first second ih ih' => exact (ih c).trans (ih' (first.run c).2)
  | during body ih => exact moves_during ih c

/-! Openings and closings, as the client and as its ports see them. -/

theorem connect_iff (c : SerialClient) :
    c.connect.1 = .ok () ↔ ∃ line,
      c.connect.2.bus.calls = c.bus.calls ++ [.opening c.port c.baudRate (some line)] := by
  rw [connect]
  cases c.line with
  | some line => simp
  | none =>
      dsimp only
      rw [SerialBus.openLine]
      cases c.bus.openFault? c.port with
      | some cause => simp [SerialBus.record]
      | none => simp [SerialBus.record]

theorem disconnect_iff (c : SerialClient) :
    c.isOpen = true ↔ ∃ line, c.disconnect.2.bus.calls = c.bus.calls ++ [.close line] := by
  rw [isOpen]
  cases there : c.line with
  | none => simp [disconnect_of_closed there]
  | some line => simp [disconnect_of_open there, SerialBus.record]

/-- A task on a line of its own leaves the client closed, whatever comes of the opening,
the task and the closing. -/
theorem line_during (closed : c.line = none)
    (task : SerialClient → Except CommandFault α × SerialClient) :
    (c.during task).2.line = none := by
  rw [SerialClient.during, connect, closed]
  dsimp only
  rw [SerialBus.openLine]
  cases c.bus.openFault? c.port with
  | some cause => rfl
  | none =>
      dsimp only
      generalize (task _).2 = worked
      have left := line_disconnect worked
      generalize worked.disconnect = result at left
      obtain ⟨fault | _, c'⟩ := result
      · exact left
      · exact left

/-- In every program, whatever fails, a client is open just as long as the last opening
that gave a line has not been followed by a closing; each line is closed at most once,
and not used afterwards. -/
theorem balanced_run (bus : SerialBus) (port : Text) (baudRate : Int) (program : Program) :
    let c := (program.run (on bus port baudRate)).2
    (∃ made, c.bus.calls = bus.calls ++ made ∧ (c.isOpen = true ↔ LeftOpen made) ∧
      (made.filterMap SerialCall.opened?).Nodup ∧ (made.filterMap SerialCall.closed?).Nodup ∧
      ∀ before line after, made = before ++ .close line :: after →
        ∀ call ∈ after, call.on? ≠ some line) ∧
    (c.connect.1 = .ok () ↔ ∃ line,
      c.connect.2.bus.calls = c.bus.calls ++ [.opening c.port c.baudRate (some line)]) ∧
    (c.isOpen = true ↔ ∃ line, c.disconnect.2.bus.calls = c.bus.calls ++ [.close line]) ∧
    (c.isOpen = false →
      (∀ (α : Type) (task : SerialClient → Except CommandFault α × SerialClient),
        (c.during task).2.isOpen = false) ∧
      c.disconnect = (.error (.serial (.notOpen c.port)), c) ∧
      ∀ question : Question, question.ask c = (.error (.serial (.notOpen c.port)), c)) ∧
    (c.isOpen = true → ∀ (question : Question) (fault : CommandFault),
      (question.ask c).1 = .error fault →
        (question.ask c).2.isOpen = true ∧ (question.ask c).2.version = c.version) := by
  intro c
  obtain ⟨made, calls, handled⟩ := program.moves (on bus port baudRate)
  have held := handled.isSome_iff
  have closings := handled.nodup_closed (by rintro line ⟨⟩)
  refine ⟨⟨made, calls, ?_, handled.nodup_opened, closings, ?_⟩, connect_iff c,
    disconnect_iff c, fun shut => ?_, fun there question fault failed => ?_⟩
  · rw [isOpen, held]
    simp [on]
  · rintro before line after rfl
    exact handled.unused
  · rw [isOpen, Option.isSome_eq_false_iff, Option.isNone_iff_eq_none] at shut
    refine ⟨fun α task => ?_, disconnect_of_closed shut, fun question => ?_⟩
    · rw [isOpen, line_during shut]
      rfl
    · exact (question.asked c).of_closed shut
  · obtain ⟨line, version⟩ := (question.asked c).of_fault failed
    rw [isOpen, line]
    exact ⟨there, version⟩

/-- A port that can be opened, but neither written nor closed without a fault. -/
def stubborn : SerialPort where
  name := text "ttyACM0"
  writeFault := some (text "gone")
  closeFault := some (text "stuck")

def clumsy : Program :=
  .anyway (.during (.ask (.raw (text "x") commandWait))) (.anyway .disconnect
    (.anyway .connect (.anyway .connect (.anyway (.ask .probe) .disconnect))))

theorem clumsy_balanced :
    ∃ c, c = (clumsy.run (on { ports := [stubborn] } (text "ttyACM0") 0)).2 ∧
      c.isOpen = false ∧ ¬ LeftOpen c.bus.calls ∧
      c.bus.calls.filterMap SerialCall.closed? =
        [⟨text "ttyACM0", 0⟩, ⟨text "ttyACM0", 1⟩] ∧
      (∀ before line after, c.bus.calls = before ++ .close line :: after →
        ∀ call ∈ after, call.on? ≠ some line) ∧
      (c.during probe).2.isOpen = false ∧
      Question.nets.ask c = (.error (.serial (.notOpen c.port)), c) := by
  refine ⟨_, rfl, ?_⟩
  have balanced := balanced_run { ports := [stubborn] } (text "ttyACM0") 0 clumsy
  have shut : (clumsy.run (on { ports := [stubborn] } (text "ttyACM0") 0)).2.isOpen = false := by
    decide +kernel
  have closings : (clumsy.run (on { ports := [stubborn] } (text "ttyACM0") 0)).2.bus.calls.filterMap
      SerialCall.closed? = [⟨text "ttyACM0", 0⟩, ⟨text "ttyACM0", 1⟩] := by decide +kernel
  -- what has been computed of the run is all that is needed of it
  generalize (clumsy.run (on { ports := [stubborn] } (text "ttyACM0") 0)).2 = c
    at balanced shut closings
  obtain ⟨⟨made, calls, open_iff, _, _, unused⟩, _, _, closed, _⟩ := balanced
  obtain ⟨during, _, asked⟩ := closed shut
  rw [List.nil_append] at calls
  subst calls
  refine ⟨shut, fun left => ?_, closings, unused, during _ probe, asked .nets⟩
  exact Bool.false_ne_true (shut.symm.trans (open_iff.2 left))

end SerialClient

end Breadboard
