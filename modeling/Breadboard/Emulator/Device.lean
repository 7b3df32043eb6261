import Breadboard.Emulator.Dispatch
import Breadboard.Emulator.Inbox

/-! A virtual device: an engine that answers on a channel. It is started, serves, drains when it is
told to stop, and has stopped when it is done or the time for that is over. It stays at its opening
if that ends in a fault that is not looked out for. -/

namespace Breadboard

inductive DeviceState where
  | stopped
  | opening
  | running
  /-- Stopping, until a time at the latest. -/
  | draining (till : Option Nat)
  deriving DecidableEq

namespace DeviceState

def name : DeviceState → Text
  | stopped => text "stopped"
  | opening => text "opening"
  | running => text "running"
  | draining _ => text "draining"

def dispatches : DeviceState → Bool
  | stopped | opening => false
  | running | draining _ => true

def rank : DeviceState → Nat
  | stopped => 0
  | opening => 1
  | running => 2
  | draining _ => 3

end DeviceState

inductive DeviceFault where
  | notStopped (state : DeviceState)
  | channel (fault : ChannelFault)
  deriving DecidableEq

def DeviceFault.message : DeviceFault → Text
  | .notStopped state => text "cannot start a device that is " ++ state.name
  | .channel fault => fault.message

structure VirtualDevice where
  /-- The most bytes a read takes. -/
  bufferSize : Nat
  /-- How long the answers may take to end when the device stops, in seconds. -/
  drainTimeout : Float
  channel : Channel
  dispatch : Dispatch
  state : DeviceState := .stopped
  inbox : Bytes := []

namespace VirtualDevice

def usualBufferSize : Nat := 1024

/-- A stopped device; a buffer size of zero is the usual one. -/
def of (engine : Engine) (port : Option PortName) (bufferSize : Int) (drainTimeout : Float) :
    VirtualDevice where
  bufferSize := if bufferSize = 0 then usualBufferSize else bufferSize.toNat
  drainTimeout
  channel := .of port
  dispatch := { engine }

def isRunning (d : VirtualDevice) : Bool := d.state == .running

def isStopped (d : VirtualDevice) : Bool := d.state == .stopped

def start (d : VirtualDevice) (h : Host) : Except DeviceFault Unit × VirtualDevice × Host :=
  match d.state with
  | .stopped =>
      match d.channel.start h with
      | (.ok (), channel, h) =>
          (.ok (), { d with
            channel
            dispatch := { d.dispatch with queue := [], activity := .idle }
            state := .running
            inbox := [] }, h)
      | (.error fault, channel, h) =>
          let state := if fault.isReported then .stopped else .opening
          (.error (.channel fault), { d with channel, state }, h)
  | state => (.error (.notStopped state), d, h)

/-- Bytes from a client. Requests that come to a device that has no dispatch are lost. -/
def feed (data : Bytes) (d : VirtualDevice) (h : Host) : VirtualDevice × Host :=
  let (request, inbox) := Inbox.feed d.inbox data
  let d := { d with inbox }
  match request with
  | some request =>
      if d.state.dispatches then
        let (dispatch, h) := d.dispatch.accept d.channel request h
        ({ d with dispatch }, h)
      else (d, h)
  | none => (d, h)

def readOnce (d : VirtualDevice) (h : Host) : VirtualDevice × Host :=
  match d.channel.read d.bufferSize h with
  | (.ok (.data data), h) => if data.isEmpty then (d, h) else d.feed data h
  | (_, h) => (d, h)

def readAll : (reads : Nat) → VirtualDevice → Host → VirtualDevice × Host
  | 0, d, h => (d, h)
  | reads + 1, d, h =>
      if h.waiting.isEmpty then (d, h)
      else
        let (d, h') := d.readOnce h
        if h'.waiting.length < h.waiting.length then readAll reads d h' else (d, h')

def shutDown (d : VirtualDevice) (h : Host) : VirtualDevice × Host :=
  let (channel, h) := d.channel.close h
  ({ d with
    channel
    dispatch := { d.dispatch with queue := [], activity := .idle }
    state := .stopped }, h)

def settle (d : VirtualDevice) (h : Host) : VirtualDevice × Host :=
  match d.state with
  | .draining _ => if d.dispatch.isFinished then d.shutDown h else (d, h)
  | _ => (d, h)

/-- Begins to stop; a device that has no dispatch has stopped at once. -/
def drain (d : VirtualDevice) (h : Host) : VirtualDevice × Host :=
  match d.state with
  | .stopped | .draining _ => (d, h)
  | .opening => d.shutDown h
  | .running =>
      match Clock.ticks? d.drainTimeout with
      | some 0 => d.shutDown h
      | time => settle { d with state := .draining (time.map (Clock.after h.now)) } h

inductive Alarm where
  | dispatch
  | drain

/-- The next alarm, and its time. Of two that are due at one time the dispatch is first. -/
def alarm? (d : VirtualDevice) : Option (Nat × Alarm) :=
  let dispatch := if d.state.dispatches then d.dispatch.activity.alarm? else none
  let drain :=
    match d.state with
    | .draining till => till
    | _ => none
  match dispatch, drain with
  | some t, some u => if Clock.isDue t u then some (min t u, .dispatch) else some (u, .drain)
  | some t, none => some (t, .dispatch)
  | none, some u => some (u, .drain)
  | none, none => none

def ring (alarm : Alarm) (d : VirtualDevice) (h : Host) : VirtualDevice × Host :=
  match alarm with
  | .drain => d.shutDown h
  | .dispatch =>
      let (dispatch, h) := d.dispatch.ring d.channel h
      settle { d with dispatch } h

def Less (d e : VirtualDevice) : Prop :=
  d.state.rank < e.state.rank ∨ d.state.rank = e.state.rank ∧ d.dispatch.Less e.dispatch

def load (d : VirtualDevice) : Nat × Nat × Nat :=
  (d.state.rank, d.dispatch.queue.length, d.dispatch.activity.size)

theorem load_lt {d e : VirtualDevice} (less : d.Less e) :
    Prod.Lex (· < ·) (Prod.Lex (· < ·) (· < ·)) d.load e.load := by
  unfold load
  rcases less with lt | ⟨eq, lt | ⟨eq', lt⟩⟩
  · exact .left _ _ lt
  · rw [eq]
    exact .right _ (.left _ _ lt)
  · rw [eq, eq']
    exact .right _ (.right _ lt)

theorem less_settle {d e : VirtualDevice} (h : Host) (less : d.Less e) : (d.settle h).1.Less e := by
  unfold settle
  split
  · next till state =>
      split
      · left
        rcases less with lt | ⟨eq, _⟩
        · exact Nat.lt_of_le_of_lt (Nat.zero_le _) lt
        · rw [← eq, state]
          exact Nat.zero_lt_succ _
      · exact less
  · exact less

theorem less_ring {d : VirtualDevice} {time : Nat} {alarm : Alarm} (h : Host)
    (due : d.alarm? = some (time, alarm)) : (d.ring alarm h).1.Less d := by
  cases alarm with
  | drain =>
      left
      cases state : d.state <;> simp_all [alarm?, ring, shutDown, DeviceState.rank, DeviceState.dispatches]
  | dispatch =>
      refine less_settle _ (.inr ⟨rfl, ?_⟩)
      refine d.dispatch.less_ring _ _ ?_
      cases activity : d.dispatch.activity with
      | idle =>
          simp only [alarm?, activity, Activity.alarm?, ite_self] at due
          split at due <;> simp_all
      | sleeping _ _ => rfl
      | sending _ _ => rfl

/-- Lets happen what is due up to a time that has not passed, or all there is. -/
def run (till : Option Nat) (d : VirtualDevice) (h : Host) : VirtualDevice × Host :=
  match _due : d.alarm? with
  | none => (d, h)
  | some (time, alarm) =>
      let now := Clock.ringTime time h.now
      if till.any (· < now) then (d, h)
      else
        let next := d.ring alarm { h with now }
        run till next.1 next.2
termination_by d.load
decreasing_by exact load_lt (less_ring _ ‹_›)

def stop (d : VirtualDevice) (h : Host) : VirtualDevice × Host :=
  let (d, h) := d.drain h
  if d.isStopped then (d, h) else run none d h

def meet (i : Incident) (d : VirtualDevice) (h : Host) : VirtualDevice × Host :=
  match i with
  | .client _ =>
      let h := h.meet i
      if d.isRunning then readAll h.waiting.length d h else (d, h)
  | .hangUp | .wake | .readFault _ =>
      let h := h.meet i
      if d.isRunning then d.readOnce h else (d, h)
  | .drain _ =>
      let h := h.meet i
      let (dispatch, h) := d.dispatch.wake d.channel h
      settle { d with dispatch } h
  | .advance span =>
      let target := Clock.after h.now span
      let (d, h) := d.run (some target) h
      d.run (some target) { h with now := target }
  | .room _ | .fault _ _ | .signal => (d, h.meet i)

end VirtualDevice

end Breadboard
