import Breadboard.Data.Segment

/-! Serial ports, as far as a client of theirs can see them: the replies that wait on each, what
goes wrong with it, and the calls that have been made. -/

namespace Breadboard

inductive Wait where
  | whole (seconds : Int)
  | seconds (x : Float)

structure SerialPort where
  name : Text
  /-- What the reads to come find, one after another. -/
  replies : List Bytes := []
  openFault : Option Text := none
  resetFault : Option Text := none
  writeFault : Option Text := none
  /-- What goes wrong with a read that finds no reply. -/
  readFault : Option Text := none
  closeFault : Option Text := none
  listed : Bool := true

/-- A port that has been opened, told apart from every other time a port was. -/
structure SerialLine where
  port : Text
  number : Nat
  deriving DecidableEq

inductive SerialCall where
  /-- An opening, and the line it gave. -/
  | opening (port : Text) (baudRate : Int) (got : Option SerialLine)
  | resetInput (line : SerialLine)
  | resetOutput (line : SerialLine)
  | write (line : SerialLine) (data : Bytes)
  | flush (line : SerialLine)
  | patience (line : SerialLine)
  | sleep (time : Wait)
  | read (line : SerialLine) (taken : Nat)
  | close (line : SerialLine)

/-- The ports of a machine, how many lines have been opened, and the calls, in order. -/
structure SerialBus where
  ports : List SerialPort
  opened : Nat := 0
  calls : List SerialCall := []

namespace SerialPort

def readSize : Nat := 128

/-- What reads find up to the first that finds nothing, and the replies that are left; none are
left if that read found no reply. -/
def drain : (replies : List Bytes) → List Bytes × Option (List Bytes)
  | [] => ([], none)
  | [] :: rest => ([], some rest)
  | reply :: rest =>
      let (found, left) := drain rest
      (segments readSize reply ++ found, left)

end SerialPort

namespace SerialBus

def find? (bus : SerialBus) (name : Text) : Option SerialPort := bus.ports.find? (·.name = name)

def setReplies (name : Text) (replies : List Bytes) (bus : SerialBus) : SerialBus :=
  { bus with ports := bus.ports.map fun p => if p.name = name then { p with replies } else p }

def record (calls : List SerialCall) (bus : SerialBus) : SerialBus :=
  { bus with calls := bus.calls ++ calls }

def noSuchPort : Text := text "no such port"

def openFault? (bus : SerialBus) (name : Text) : Option Text :=
  match bus.find? name with
  | none => some noSuchPort
  | some p => p.openFault

def openLine (name : Text) (baudRate : Int) (bus : SerialBus) :
    Except Text SerialLine × SerialBus :=
  match bus.openFault? name with
  | some cause => (.error cause, bus.record [.opening name baudRate none])
  | none =>
      let line : SerialLine := ⟨name, bus.opened⟩
      (.ok line,
        { bus.record [.opening name baudRate (some line)] with opened := bus.opened + 1 })

def closeLine (line : SerialLine) (bus : SerialBus) : Except Text Unit × SerialBus :=
  match (bus.find? line.port).bind (·.closeFault) with
  | some cause => (.error cause, bus.record [.close line])
  | none => (.ok (), bus.record [.close line])

def clear (line : SerialLine) (bus : SerialBus) : Except Text Unit × SerialBus :=
  match bus.find? line.port with
  | none => (.error noSuchPort, bus)
  | some p =>
      match p.resetFault with
      | some cause => (.error cause, bus.record [.resetInput line])
      | none => (.ok (), bus.record [.resetInput line, .resetOutput line])

def talk (line : SerialLine) (command : Bytes) (time : Wait) (bus : SerialBus) :
    Except Text Bytes × SerialBus :=
  match bus.find? line.port with
  | none => (.error noSuchPort, bus)
  | some p =>
      match p.resetFault, p.writeFault with
      | some cause, _ => (.error cause, bus.record [.resetInput line])
      | none, some cause =>
          (.error cause, bus.record [.resetInput line, .resetOutput line, .write line command])
      | none, none =>
          let (found, left) := SerialPort.drain p.replies
          let bus := (bus.setReplies line.port (left.getD [])).record (
            [.resetInput line, .resetOutput line, .write line command, .flush line, .patience line,
              .sleep time] ++ found.map (.read line ·.length) ++ [.read line 0])
          match left, p.readFault with
          | none, some cause => (.error cause, bus)
          | _, _ => (.ok found.flatten, bus)

end SerialBus

end Breadboard
