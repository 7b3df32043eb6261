import Breadboard.Proofs.Emulator.Order
import Breadboard.Proofs.Terminal.Custody

/-! The life of a device. It may be started and stopped over and over, with anything in
between. A stopped device has nothing to do and a closed channel, so that nothing goes
on when it is woken too late; any other device has an open one. It also has one after a
start that has ended in a fault that is not looked out for: such a device has nothing to
do either, and stays as it is until it is stopped. -/

namespace Breadboard

namespace Dispatch

theorem serve_idle {d : Dispatch} (idle : d.activity = .idle) (empty : d.queue = [])
    (c : Channel) (h : Host) : serve c d.queue d.engine d.events h = (d, h) := by
  obtain ⟨engine, queue, activity, events⟩ := d
  cases idle
  cases empty
  rfl

end Dispatch

theorem Channel.idle_close {c : Channel} (isOpen : c.isOpen = true) (h : Host) :
    (c.close h).1.Idle := by
  rw [close, if_pos isOpen]
  exact idle_release c h

theorem Channel.Idle.close {c : Channel} (idle : c.Idle) (h : Host) :
    c.close h = (c, h) := by
  rw [Channel.close, idle.isOpen]
  rfl

namespace VirtualDevice

/-! Whether someone attends to requests. -/

variable {d d' : VirtualDevice} {h h' : Host}

/-- A device that has stopped has a closed channel and nothing to do. -/
structure Quiet (d : VirtualDevice) : Prop where
  off : d.state = .stopped
  channel : d.channel.Idle
  activity : d.dispatch.activity = .idle
  queue : d.dispatch.queue = []

structure Left (d : VirtualDevice) : Prop where
  opening : d.state = .opening
  isOpen : d.channel.isOpen = true
  activity : d.dispatch.activity = .idle
  queue : d.dispatch.queue = []

/-- A device is quiet, or its channel is open, be it that it dispatches or that it was left
at its opening. -/
inductive Fit (d : VirtualDevice) : Prop
  | quiet (quiet : d.Quiet)
  | left (left : d.Left)
  | busy (on : d.state.dispatches = true) (isOpen : d.channel.isOpen = true)

/-- What a device and its host may do next, also one that has stopped: what the dispatch
has begun is not known to have ended. -/
inductive Move : VirtualDevice × Host → VirtualDevice × Host → Prop
  | outside (d : VirtualDevice) {h h' : Host} (same : h'.sent = h.sent) :
      Move (d, h) (d, h')
  | heard (d : VirtualDevice) (h : Host) (data : Bytes) : Move (d, h) (d.hear data, h)
  | taken (d : VirtualDevice) (h : Host) (idle : d.dispatch.activity.isIdle = true) :
      Move (d, h) (d.dispatched (Dispatch.serve d.channel d.dispatch.queue
        d.dispatch.engine d.dispatch.events h))
  | rung (d : VirtualDevice) (h : Host) :
      Move (d, h) (d.dispatched (d.dispatch.ring d.channel h))
  | woken (d : VirtualDevice) (h : Host) :
      Move (d, h) (d.dispatched (d.dispatch.wake d.channel h))
  | draining (d : VirtualDevice) (h : Host) (on : d.state.dispatches = true)
      (till : Option Nat) : Move (d, h) ({ d with state := .draining till }, h)
  | shut (d : VirtualDevice) (h : Host) : Move (d, h) (d.shutDown h)

abbrev Moves : VirtualDevice × Host → VirtualDevice × Host → Prop :=
  Relation.ReflTransGen Move

theorem Turn.move {now next : VirtualDevice × Host} (turn : Turn now next) :
    Move now next := by
  cases turn with
  | outside d same => exact .outside d same
  | heard d h data => exact .heard d h data
  | taken d h on idle => exact .taken d h idle
  | rung d h on => exact .rung d h
  | woken d h on => exact .woken d h
  | draining d h on till => exact .draining d h on till
  | shut d h => exact .shut d h

theorem Turns.moves {now next : VirtualDevice × Host} (turns : Turns now next) :
    Moves now next :=
  Relation.ReflTransGen.mono (fun _ _ turn => turn.move) _ _ turns

/-- From one moment to another a device stays as it is, but for what it hears: nothing is
written, and nothing is handed to its engine. -/
structure Rests (now next : VirtualDevice × Host) : Prop where
  state : next.1.state = now.1.state
  channel : next.1.channel = now.1.channel
  dispatch : next.1.dispatch = now.1.dispatch
  sent : next.2.sent = now.2.sent

theorem Rests.refl (now : VirtualDevice × Host) : Rests now now := ⟨rfl, rfl, rfl, rfl⟩

theorem Rests.trans {now next last : VirtualDevice × Host} (first : Rests now next)
    (second : Rests next last) : Rests now last where
  state := second.state.trans first.state
  channel := second.channel.trans first.channel
  dispatch := second.dispatch.trans first.dispatch
  sent := second.sent.trans first.sent

structure Still (d : VirtualDevice) : Prop where
  off : d.state.dispatches = false
  activity : d.dispatch.activity = .idle
  queue : d.dispatch.queue = []

theorem Quiet.still (quiet : d.Quiet) : d.Still where
  off := by rw [quiet.off]; rfl
  activity := quiet.activity
  queue := quiet.queue

theorem Left.still (left : d.Left) : d.Still where
  off := by rw [left.opening]; rfl
  activity := left.activity
  queue := left.queue

theorem Rests.left {now next : VirtualDevice × Host} (rests : Rests now next)
    (left : now.1.Left) : next.1.Left where
  opening := rests.state.trans left.opening
  isOpen := by rw [rests.channel]; exact left.isOpen
  activity := by rw [rests.dispatch]; exact left.activity
  queue := by rw [rests.dispatch]; exact left.queue

theorem Rests.quiet {now next : VirtualDevice × Host} (rests : Rests now next)
    (quiet : now.1.Quiet) : next.1.Quiet where
  off := rests.state.trans quiet.off
  channel := by rw [rests.channel]; exact quiet.channel
  activity := by rw [rests.dispatch]; exact quiet.activity
  queue := by rw [rests.dispatch]; exact quiet.queue

theorem hear_cases (data : Bytes) (d : VirtualDevice) :
    ∃ inbox dispatch, d.hear data = { d with inbox, dispatch } ∧
      (d.state.dispatches = false → dispatch = d.dispatch) := by
  rw [hear]
  split
  next request inbox _ =>
    dsimp only
    split
    · exact ⟨inbox, d.dispatch, rfl, fun _ => rfl⟩
    · split
      · next on =>
          refine ⟨inbox, _, rfl, fun off => ?_⟩
          rw [on] at off
          cases off
      · exact ⟨inbox, d.dispatch, rfl, fun _ => rfl⟩

/-- A device that has nothing to do rests, or is shut down. -/
theorem Still.move {now next : VirtualDevice × Host} (still : now.1.Still)
    (move : Move now next) : Rests now next ∨ next = now.1.shutDown now.2 := by
  cases move with
  | shut d h => exact .inr rfl
  | outside d same => exact .inl ⟨rfl, rfl, rfl, same⟩
  | heard d h data =>
      obtain ⟨inbox, dispatch, heard, same⟩ := hear_cases data d
      rw [heard]
      exact .inl ⟨rfl, rfl, same still.off, rfl⟩
  | taken d h idle =>
      rw [Dispatch.serve_idle still.activity still.queue]
      exact .inl (.refl _)
  | rung d h =>
      have same : d.dispatch.ring d.channel h = (d.dispatch, h) := by
        rw [Dispatch.ring, still.activity]
      rw [same]
      exact .inl (.refl _)
  | woken d h =>
      have same : d.dispatch.wake d.channel h = (d.dispatch, h) := by
        rw [Dispatch.wake, still.activity]
      rw [same]
      exact .inl (.refl _)
  | draining d h on till =>
      have off := still.off
      rw [show d.state.dispatches = true from on] at off
      cases off

theorem Quiet.shutDown (quiet : d.Quiet) (h : Host) : Rests (d, h) (d.shutDown h) := by
  rw [VirtualDevice.shutDown, quiet.channel.close]
  have same : { d.dispatch with queue := [], activity := .idle } = d.dispatch := by
    rw [← quiet.queue, ← quiet.activity]
  exact ⟨quiet.off.symm, rfl, same, rfl⟩

/-- Whatever was begun before a device stopped, nothing goes on after it. -/
theorem Quiet.rests {now next : VirtualDevice × Host} (quiet : now.1.Quiet)
    (move : Move now next) : Rests now next := by
  rcases quiet.still.move move with rests | rfl
  · exact rests
  · exact quiet.shutDown now.2

theorem quiet_shutDown (isOpen : d.channel.isOpen = true) (h : Host) :
    (d.shutDown h).1.Quiet := ⟨rfl, Channel.idle_close isOpen h, rfl, rfl⟩

theorem Fit.move {now next : VirtualDevice × Host} (fit : now.1.Fit) (move : Move now next) :
    next.1.Fit := by
  cases fit with
  | quiet quiet => exact .quiet ((quiet.rests move).quiet quiet)
  | left left =>
      rcases left.still.move move with rests | rfl
      · exact .left (rests.left left)
      · exact .quiet (quiet_shutDown left.isOpen now.2)
  | busy on isOpen =>
      cases move with
      | outside d same => exact .busy on isOpen
      | heard d h data =>
          obtain ⟨inbox, dispatch, heard, _⟩ := hear_cases data d
          rw [heard]
          exact .busy on isOpen
      | taken d h idle => exact .busy on isOpen
      | rung d h => exact .busy on isOpen
      | woken d h => exact .busy on isOpen
      | draining d h on till => exact .busy rfl isOpen
      | shut d h => exact .quiet (quiet_shutDown isOpen h)

/-- How a start ends. A device that has not stopped is left as it is; one whose channel
cannot be opened stays stopped, but for a fault that is not looked out for. -/
inductive Starting (d : VirtualDevice) (h : Host) :
    Except DeviceFault Unit × VirtualDevice × Host → Prop
  | refused (on : d.state ≠ .stopped) :
      Starting d h (.error (.notStopped d.state), d, h)
  | failed {fault : ChannelFault} {d' : VirtualDevice} {h' : Host} (off : d.state = .stopped)
      (barred : d.channel.Barred h) (caught : d.channel.Caught h) (quiet : d'.Quiet) :
      Starting d h (.error (.channel fault), d', h')
  | escaped {fault : ChannelFault} {d' : VirtualDevice} {h' : Host} (off : d.state = .stopped)
      (escapes : d.channel.Escapes h fault) (left : d'.Left) :
      Starting d h (.error (.channel fault), d', h')
  | begun {d' : VirtualDevice} {h' : Host} (off : d.state = .stopped)
      (free : ¬ d.channel.Barred h) (caught : d.channel.Caught h)
      (running : d'.state = .running) (isOpen : d'.channel.isOpen = true) :
      Starting d h (.ok (), d', h')

theorem start_refused (on : d.state ≠ .stopped) :
    d.start h = (.error (.notStopped d.state), d, h) := by
  rw [start]
  split
  · next off => exact absurd off on
  · rfl

theorem Fit.starting (fit : d.Fit) (h : Host) : d.Starting h (d.start h) := by
  cases fit with
  | quiet quiet =>
      have starting := quiet.channel.starting h
      rw [start, quiet.off]
      generalize started : d.channel.start h = result at starting ⊢
      cases starting with
      | failed barred caught idle =>
          exact .failed quiet.off barred caught ⟨rfl, idle, quiet.activity, quiet.queue⟩
      | escaped escapes isOpen =>
          refine .escaped quiet.off escapes ⟨?_, isOpen, quiet.activity, quiet.queue⟩
          simp only [escapes.isReported, Bool.false_eq_true, if_false]
      | opened free caught =>
          exact .begun quiet.off free caught rfl (Channel.isOpen_of_start started)
  | left left =>
      have on : d.state ≠ .stopped := by simp [left.opening]
      rw [start_refused on]
      exact .refused on
  | busy on isOpen =>
      have on := DeviceState.ne_stopped on
      rw [start_refused on]
      exact .refused on

theorem Starting.fit {result : Except DeviceFault Unit × VirtualDevice × Host}
    (starting : d.Starting h result) (fit : d.Fit) : result.2.1.Fit := by
  cases starting with
  | refused on => exact fit
  | failed off barred caught quiet => exact .quiet quiet
  | escaped off escapes left => exact .left left
  | begun off free caught running isOpen => exact .busy (by rw [running]; rfl) isOpen

inductive Step (now : VirtualDevice × Host) : VirtualDevice × Host → Prop
  | start : Step now (now.1.start now.2).2
  | move {next : VirtualDevice × Host} (move : Move now next) : Step now next

abbrev Steps : VirtualDevice × Host → VirtualDevice × Host → Prop :=
  Relation.ReflTransGen Step

theorem Fit.step {now next : VirtualDevice × Host} (fit : now.1.Fit) (step : Step now next) :
    next.1.Fit := by
  cases step with
  | start => exact (fit.starting now.2).fit fit
  | move move => exact fit.move move

theorem Fit.steps {now next : VirtualDevice × Host} (fit : now.1.Fit)
    (steps : Steps now next) : next.1.Fit := by
  induction steps with
  | refl => exact fit
  | tail _ step ih => exact ih.step step

theorem Move.opening {now next : VirtualDevice × Host} (move : Move now next)
    (opening : next.1.state = .opening) : now.1.state = .opening := by
  cases move with
  | outside d same => exact opening
  | heard d h data =>
      obtain ⟨inbox, dispatch, heard, _⟩ := hear_cases data d
      rw [heard] at opening
      exact opening
  | taken d h idle => exact opening
  | rung d h => exact opening
  | woken d h => exact opening
  | draining d h on till => cases opening
  | shut d h => cases opening

inductive Deed where
  | start
  | other (happening : Happening)

def perform (now : VirtualDevice × Host) : Deed → VirtualDevice × Host
  | .start => (now.1.start now.2).2
  | .other happening => happen now happening

theorem Prompt.start (prompt : d.Prompt) (h : Host) : (d.start h).2.1.Prompt := by
  rw [VirtualDevice.start]
  split
  · next off =>
      split
      · exact ⟨⟨fun _ => rfl, trivial⟩, fun _ => rfl⟩
      · exact ⟨prompt.dispatch, fun _ => prompt.off (by rw [off]; rfl)⟩
  · exact prompt

theorem Moves.steps {now next : VirtualDevice × Host} (moves : Moves now next) :
    Steps now next :=
  Relation.ReflTransGen.mono (fun _ _ move => .move move) _ _ moves

theorem Quiet.prompt (quiet : d.Quiet) : d.Prompt where
  dispatch := ⟨fun _ => quiet.queue, by rw [quiet.activity]; trivial⟩
  off _ := by rw [quiet.activity]; rfl

def unsettled : Host :=
  { settingsFault := some ⟨25, text "Inappropriate ioctl for device"⟩ }

def stalled : VirtualDevice × Host :=
  let d := begun.1.hear [0x61]
  d.dispatched (Dispatch.serve d.channel d.dispatch.queue d.dispatch.engine d.dispatch.events
    begun.2)

end VirtualDevice

end Breadboard
