import Breadboard.Data.Dict
import Breadboard.Terminal.Clock
import Breadboard.Text.Utf8

/-! The host of a pseudo-terminal: the descriptors and links it has given out, the bytes that wait
in the terminal, the room for more, and which of its calls fail. -/

namespace Breadboard

inductive HostCall where
  | openPair
  | nameTerminal
  | setRaw
  | setUnblocking
  | remove
  | link
  | close
  | write
  deriving DecidableEq, Repr

structure HostFault where
  number : Int
  words : Text
  deriving DecidableEq

namespace HostFault

def message (fault : HostFault) : Text :=
  text "[Errno " ++ Text.ofInt fault.number ++ text "] " ++ fault.words

def missing : HostFault := ⟨2, text "No such file or directory"⟩

def wouldBlock : HostFault := ⟨11, text "Resource temporarily unavailable"⟩

def existing : HostFault := ⟨17, text "File exists"⟩

def noClient : HostFault := ⟨5, text "Input/output error"⟩

def laterNumbers : List Int := [wouldBlock.number, 114, 115]

def isWouldBlock (fault : HostFault) : Bool := laterNumbers.contains fault.number

def isNoClient (fault : HostFault) : Bool := fault.number == noClient.number

end HostFault

/-- One side of a pseudo-terminal, told apart from those of every other time one was opened. -/
structure Descriptor where
  pair : Nat
  primary : Bool
  deriving DecidableEq

structure Host where
  faults : List (HostCall × HostFault) := []
  /-- What goes wrong with the settings of a new terminal. It is a fault of a kind of its own, which
  whoever looks out for those of the calls lets pass. -/
  settingsFault : Option HostFault := none
  /-- How many more bytes the terminal takes; without a bound if none. -/
  room : Option Nat := none
  /-- The names there are, each with what it links to if it is a link. -/
  files : Dict (Option Text) := []
  /-- How many pairs of descriptors have been given out. -/
  pairs : Nat := 0
  held : List Descriptor := []
  /-- The descriptors that were handed back, also where that failed. -/
  closed : List Descriptor := []
  /-- What the client has written. -/
  waiting : Bytes := []
  hungUp : Bool := false
  /-- What goes wrong with the next read. -/
  readFault : Option HostFault := none
  now : Nat := 0
  /-- What the terminal has taken, and when. -/
  sent : List (Nat × Bytes) := []

inductive Incident where
  | client (data : Bytes)
  | hangUp
  | wake
  | readFault (fault : HostFault)
  | drain (n : Nat)
  | room (n : Nat)
  | fault (call : HostCall) (fault : Option HostFault)
  | advance (span : Nat)
  | signal

namespace Host

def terminalName : Text := text "/dev/pts/7"

def fault? (call : HostCall) (h : Host) : Option HostFault := h.faults.lookup call

def openPair (h : Host) : Except HostFault (Descriptor × Descriptor) × Host :=
  match h.fault? .openPair with
  | some fault => (.error fault, h)
  | none =>
      let pair := (⟨h.pairs, true⟩, ⟨h.pairs, false⟩)
      (.ok pair, { h with pairs := h.pairs + 1, held := h.held ++ [pair.1, pair.2] })

/-- Takes a descriptor back. Descriptors of one side share their number, so an earlier one that was
not taken back goes with it. -/
def close (d : Descriptor) (h : Host) : Host :=
  let h := { h with closed := h.closed ++ [d] }
  match h.fault? .close with
  | some _ => h
  | none => { h with held := h.held.filter (·.primary ≠ d.primary) }

def remove (name : Text) (h : Host) : Except HostFault Unit × Host :=
  match h.fault? .remove with
  | some fault => (.error fault, h)
  | none =>
      if h.files.has name then
        (.ok (), { h with files := h.files.filter fun (other, _) => other ≠ name })
      else (.error .missing, h)

def link (target name : Text) (h : Host) : Except HostFault Unit × Host :=
  match h.fault? .link with
  | some fault => (.error fault, h)
  | none =>
      if h.files.has name then (.error .existing, h)
      else (.ok (), { h with files := h.files.put name (some target) })

def write (data : Bytes) (h : Host) : Except HostFault Nat × Host :=
  match h.fault? .write with
  | some fault => (.error fault, h)
  | none =>
      match h.room with
      | none => (.ok data.length, { h with sent := h.sent ++ [(h.now, data)] })
      | some room =>
          if room = 0 ∧ data ≠ [] then (.error .wouldBlock, h)
          else
            let taken := data.take room
            (.ok taken.length,
              { h with room := some (room - taken.length), sent := h.sent ++ [(h.now, taken)] })

def read (size : Nat) (h : Host) : Except HostFault Bytes × Host :=
  match h.readFault with
  | some fault => (.error fault, { h with readFault := none })
  | none =>
      if h.waiting.isEmpty then (.error (if h.hungUp then .noClient else .wouldBlock), h)
      else (.ok (h.waiting.take size), { h with waiting := h.waiting.drop size })

def setFault (call : HostCall) (fault : Option HostFault) (h : Host) : Host :=
  let others := h.faults.filter fun (other, _) => other ≠ call
  { h with faults := (fault.map (call, ·)).toList ++ others }

def meet (i : Incident) (h : Host) : Host :=
  match i with
  | .client data => { h with waiting := h.waiting ++ data, hungUp := false }
  | .hangUp => { h with hungUp := true }
  | .wake => h
  | .readFault fault => { h with readFault := some fault }
  | .drain n => { h with room := h.room.map (· + n) }
  | .room n => { h with room := some n }
  | .fault call fault => h.setFault call fault
  | .advance span => { h with now := Clock.after h.now span }
  | .signal => h

end Host

end Breadboard
