import Breadboard.Serial.Client

/-! What a command does with the line of a client: it makes calls on that line, and opens
and closes none. -/

namespace Breadboard

namespace SerialCall

def on? : SerialCall → Option SerialLine
  | .opening .. | .sleep _ => none
  | .resetInput line | .resetOutput line | .write line _ | .flush line | .patience line
  | .read line _ | .close line => some line

def Uses (line : SerialLine) : SerialCall → Prop
  | .opening .. | .close _ => False
  | .sleep _ => True
  | .resetInput own | .resetOutput own | .write own _ | .flush own | .patience own
  | .read own _ => own = line

theorem Uses.on? {call : SerialCall} {line : SerialLine} (uses : call.Uses line) :
    ∀ own ∈ call.on?, own = line := by
  intro own on
  cases call with
  | opening => exact uses.elim
  | close => exact uses.elim
  | sleep => cases on
  | _ =>
      cases on
      exact uses

end SerialCall

namespace SerialBus

structure Used (bus : SerialBus) (line : SerialLine) (bus' : SerialBus) : Prop where
  opened : bus'.opened = bus.opened
  calls : ∃ made, bus'.calls = bus.calls ++ made ∧ ∀ call ∈ made, call.Uses line

theorem Used.refl (bus : SerialBus) (line : SerialLine) : bus.Used line bus :=
  ⟨rfl, [], (List.append_nil _).symm, List.forall_mem_nil _⟩

theorem used_record {line : SerialLine} {made : List SerialCall}
    (each : ∀ call ∈ made, call.Uses line) (bus : SerialBus) :
    bus.Used line (bus.record made) :=
  ⟨rfl, made, rfl, each⟩

theorem used_clear (line : SerialLine) (bus : SerialBus) :
    bus.Used line (bus.clear line).2 := by
  rw [clear]
  split
  · exact .refl bus line
  · split
    · exact used_record (by simp [SerialCall.Uses]) bus
    · exact used_record (by simp [SerialCall.Uses]) bus

theorem used_talk (line : SerialLine) (command : Bytes) (time : Wait) (bus : SerialBus) :
    bus.Used line (bus.talk line command time).2 := by
  rw [talk]
  split
  · exact .refl bus line
  · next p _ =>
      split
      · exact used_record (by simp [SerialCall.Uses]) bus
      · exact used_record (by simp [SerialCall.Uses]) bus
      · have each : ∀ call ∈ [.resetInput line, .resetOutput line, .write line command,
            .flush line, .patience line, .sleep time] ++
            (SerialPort.drain p.replies).1.map (.read line ·.length) ++ [.read line 0],
            SerialCall.Uses line call := by
          simp [SerialCall.Uses, or_imp, forall_and]
        have drained := used_record each
          (bus.setReplies line.port ((SerialPort.drain p.replies).2.getD []))
        dsimp only
        split <;> exact ⟨drained.opened, drained.calls⟩

end SerialBus

namespace SerialClient

variable {c : SerialClient}

theorem raw_of_closed (closed : c.line = none) (command : Text) (wait : Wait) :
    c.raw command wait = (.error (.serial (.notOpen c.port)), c) := by
  rw [raw, closed]

/-- A command changes no more of a client than its ports. -/
theorem raw_of_open {line : SerialLine} (there : c.line = some line) (command : Text)
    (wait : Wait) : ∃ result bus, c.raw command wait = (result, { c with bus }) ∧
      c.bus.Used line bus := by
  rw [raw, there]
  cases bytesOf? command with
  | none =>
      have used := SerialBus.used_clear line c.bus
      dsimp only
      generalize c.bus.clear line = cleared at used
      obtain ⟨_ | _, bus⟩ := cleared
      · exact ⟨_, bus, rfl, used⟩
      · exact ⟨_, bus, rfl, used⟩
  | some data =>
      have used := SerialBus.used_talk line data wait c.bus
      dsimp only
      generalize c.bus.talk line data wait = talked at used
      obtain ⟨_ | _, bus⟩ := talked
      · exact ⟨_, bus, rfl, used⟩
      · exact ⟨_, bus, rfl, used⟩

end SerialClient

end Breadboard
