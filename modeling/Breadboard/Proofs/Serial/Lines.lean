import Breadboard.Proofs.Serial.Use
import Breadboard.Serial.Discovery

/-! The lines of a machine that are open. Whoever asks a device something opens a
line for it and closes it again, whatever comes of it, so that a search leaves no
line open. -/

namespace Breadboard

namespace SerialBus

def linesAfter (lines : List SerialLine) : SerialCall → List SerialLine
  | .opening _ _ (some line) => lines ++ [line]
  | .close line => lines.filter (· ≠ line)
  | _ => lines

def openLines (bus : SerialBus) : List SerialLine := bus.calls.foldl linesAfter []

variable {bus bus' : SerialBus} {line : SerialLine}

theorem openLines_record (calls : List SerialCall) (bus : SerialBus) :
    (bus.record calls).openLines = calls.foldl linesAfter bus.openLines :=
  List.foldl_append

/-- Calls that neither open nor close a line. -/
def Idle (calls : List SerialCall) : Prop :=
  ∀ call ∈ calls, ∀ lines, linesAfter lines call = lines

theorem openLines_record_of_idle {calls : List SerialCall} (idle : Idle calls)
    (bus : SerialBus) : (bus.record calls).openLines = bus.openLines := by
  rw [openLines_record]
  generalize bus.openLines = lines
  induction calls with
  | nil => rfl
  | cons call calls ih =>
      obtain ⟨first, others⟩ := List.forall_mem_cons.1 idle
      rw [List.foldl_cons, first, ih others]

theorem openLines_openLine {name : Text} {baudRate : Int}
    (opened : bus.openLine name baudRate = (.ok line, bus')) :
    bus'.openLines = bus.openLines ++ [line] := by
  rw [openLine] at opened
  split at opened
  · cases opened
  · cases opened
    exact openLines_record [.opening name baudRate _] bus

theorem openLines_of_openLine_error {name cause : Text} {baudRate : Int}
    (failed : bus.openLine name baudRate = (.error cause, bus')) :
    bus'.openLines = bus.openLines := by
  rw [openLine] at failed
  split at failed
  · cases failed
    exact openLines_record [.opening name baudRate none] bus
  · cases failed

theorem openLines_closeLine (line : SerialLine) (bus : SerialBus) :
    (bus.closeLine line).2.openLines = bus.openLines.filter (· ≠ line) := by
  rw [closeLine]
  split
  · exact openLines_record [.close line] bus
  · exact openLines_record [.close line] bus

theorem idle_of_uses {made : List SerialCall} (each : ∀ call ∈ made, call.Uses line) :
    Idle made := by
  intro call member lines
  have uses := each call member
  cases call with
  | opening => exact uses.elim
  | close => exact uses.elim
  | _ => rfl

theorem openLines_of_used (used : bus.Used line bus') : bus'.openLines = bus.openLines := by
  obtain ⟨made, calls, each⟩ := used.calls
  rw [openLines, calls]
  exact openLines_record_of_idle (idle_of_uses each) bus

end SerialBus

namespace SerialClient

variable {α : Type}

def Stays (task : SerialClient → Except CommandFault α × SerialClient) : Prop :=
  ∀ c, (task c).2.bus.openLines = c.bus.openLines ∧ (task c).2.line = c.line

theorem stays_raw (command : Text) (wait : Wait) : Stays (raw command wait) := by
  intro c
  cases there : c.line with
  | none =>
      rw [raw_of_closed there]
      exact ⟨rfl, there⟩
  | some line =>
      obtain ⟨result, bus, done, used⟩ := raw_of_open there command wait
      rw [done]
      exact ⟨SerialBus.openLines_of_used used, there⟩

theorem stays_probe : Stays probe := by
  intro c
  have same := stays_raw (text "?") commandWait c
  rw [probe]
  split
  · next asked =>
      rw [asked] at same
      exact same
  · next asked =>
      rw [asked] at same
      exact same

theorem connect_cases (c : SerialClient) :
    (∃ fault c', c.connect = (.error fault, c') ∧
      c'.bus.openLines = c.bus.openLines) ∨
    ∃ line c', c.connect = (.ok (), c') ∧ c'.line = some line ∧
      c'.bus.openLines = c.bus.openLines ++ [line] := by
  rw [connect]
  split
  · exact .inl ⟨_, _, rfl, rfl⟩
  · split
    · next failed =>
        exact .inl ⟨_, _, rfl, SerialBus.openLines_of_openLine_error failed⟩
    · next line _ opened =>
        exact .inr ⟨line, _, rfl, rfl, SerialBus.openLines_openLine opened⟩

theorem openLines_disconnect {c : SerialClient} {line : SerialLine}
    (there : c.line = some line) :
    c.disconnect.2.bus.openLines = c.bus.openLines.filter (· ≠ line) := by
  have closed := SerialBus.openLines_closeLine line c.bus
  rw [disconnect, there]
  dsimp only
  split
  · next done =>
      rw [done] at closed
      exact closed
  · next done =>
      rw [done] at closed
      exact closed

/-- After a task no line is open that was not open before it. -/
theorem openLines_during
    {task : SerialClient → Except CommandFault α × SerialClient}
    (stays : Stays task) (c : SerialClient) :
    (c.during task).2.bus.openLines ⊆ c.bus.openLines := by
  rw [during]
  rcases c.connect_cases with
    ⟨fault, c', failed, same⟩ | ⟨line, c', opened, there, lines⟩
  · rw [failed]
    exact same ▸ List.Subset.refl _
  · rw [opened]
    obtain ⟨same, still⟩ := stays c'
    have closed := openLines_disconnect (still.trans there)
    have fewer : (task c').2.disconnect.2.bus.openLines ⊆ c.bus.openLines := by
      intro other member
      rw [closed, same, lines] at member
      obtain ⟨member, different⟩ := List.mem_filter.1 member
      exact (List.mem_append.1 member).resolve_right (by simpa using different)
    dsimp only
    split
    · next disconnected =>
        rw [disconnected] at fewer
        exact fewer
    · next disconnected =>
        rw [disconnected] at fewer
        exact fewer

end SerialClient

namespace Discovery

theorem openLines_probe (port : Text) (baudRate : Int) (bus : SerialBus) :
    (probe port baudRate bus).2.openLines ⊆ bus.openLines := by
  have fewer := SerialClient.openLines_during SerialClient.stays_probe
    (SerialClient.on bus port baudRate)
  rw [probe]
  split <;>
    · next done =>
        rw [done] at fewer
        exact fewer

theorem openLines_first (baudRate : Int) (bus : SerialBus) (ports : List Text)
    (faults : List SerialFault) :
    (first baudRate bus ports faults).2.openLines ⊆ bus.openLines := by
  induction ports generalizing bus faults with
  | nil => exact List.Subset.refl _
  | cons port rest ih =>
      have fewer := openLines_probe port baudRate bus
      rw [first]
      split
      · next probed =>
          rw [probed] at fewer
          exact fewer
      · next bus' probed =>
          rw [probed] at fewer
          exact List.Subset.trans (ih bus' faults) fewer
      · next bus' probed =>
          rw [probed] at fewer
          exact List.Subset.trans (ih bus' _) fewer

/-- A search leaves no line open that was not open before it. -/
theorem openLines_find (port : Option Text) (baudRate : Int) (bus : SerialBus) :
    (find port baudRate bus).2.openLines ⊆ bus.openLines := by
  rw [find.eq_def]
  split
  · split
    · exact List.Subset.refl _
    · exact openLines_first ..
  · split
    · exact List.Subset.refl _
    · exact openLines_first ..
  · next port _ =>
      have fewer := openLines_probe port baudRate bus
      split <;>
        · next probed =>
            rw [probed] at fewer
            exact fewer

end Discovery

end Breadboard
