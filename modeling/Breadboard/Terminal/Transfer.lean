import Breadboard.Terminal.Channel

/-! Transfers. A transfer writes bytes to a channel, waits whenever the terminal is full, and gives
up when a wait gets too long. -/

namespace Breadboard

structure Transfer where
  /-- How many bytes it began with. -/
  size : Nat
  /-- How long it waits, or for ever. -/
  patience : Option Nat
  rest : Bytes
  /-- When the wait gets too long. -/
  deadline : Option Nat

/-- How far a transfer has come; one that has ended tells how many bytes were taken. -/
inductive Progress where
  | ended (taken : Nat)
  | waiting (t : Transfer)
  | failed (fault : ChannelFault)

namespace Channel

/-- What writing came to: all is taken, the terminal is full, or a write failed. -/
inductive Push where
  | done
  | full (rest : Bytes)
  | failed (fault : ChannelFault)

/-- Writes until all is taken or no write takes anything. -/
def push (c : Channel) (data : Bytes) (h : Host) : Push × Host :=
  if data = [] then (.done, h)
  else match c.write data h with
    | (.error fault, h) => (.failed fault, h)
    | (.ok 0, h) => (.full data, h)
    | (.ok (n + 1), h) => c.push (data.drop (n + 1)) h
termination_by data.length
decreasing_by
  simp only [List.length_drop]
  have := List.length_pos_iff.2 ‹data ≠ []›
  omega

end Channel

namespace Transfer

def stallLimit : Option Nat := some (5 * Clock.ticksPerSecond)

def go (c : Channel) (size : Nat) (patience : Option Nat) (rest : Bytes) (h : Host) :
    Progress × Host :=
  match c.push rest h with
  | (.done, h) => (.ended size, h)
  | (.failed fault, h) => (.failed fault, h)
  | (.full rest, h) =>
      if patience = some 0 then (.ended (size - rest.length), h)
      else (.waiting ⟨size, patience, rest, patience.map (Clock.after h.now)⟩, h)

def start (c : Channel) (data : Bytes) (patience : Option Nat) (h : Host) : Progress × Host :=
  go c data.length patience data h

def wake (c : Channel) (t : Transfer) (h : Host) : Progress × Host :=
  go c t.size t.patience t.rest h

def taken (t : Transfer) : Nat := t.size - t.rest.length

end Transfer

namespace Progress

def wake (c : Channel) (p : Progress) (h : Host) : Progress × Host :=
  match p with
  | .waiting t => t.wake c h
  | p => (p, h)

def advance (span : Nat) (p : Progress) (h : Host) : Progress × Host :=
  let h := h.meet (.advance span)
  match p with
  | .waiting t => if t.deadline.any (Clock.isDue · h.now) then (.ended t.taken, h) else (p, h)
  | p => (p, h)

def finish (p : Progress) (h : Host) : Except ChannelFault Nat × Host :=
  match p with
  | .ended taken => (.ok taken, h)
  | .failed fault => (.error fault, h)
  | .waiting t =>
      let now := (t.deadline.map (Clock.ringTime · h.now)).getD h.now
      (.ok t.taken, { h with now := now })

def during (c : Channel) : (rounds : List (Nat × Nat)) → Progress → Host →
    Except ChannelFault Nat × Host
  | [], p, h => p.finish h
  | (span, room) :: rounds, p, h =>
      let (p, h) := p.advance span h
      let (p, h) := p.wake c (h.meet (.drain room))
      during c rounds p h

end Progress

end Breadboard
