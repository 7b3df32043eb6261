import Breadboard.Proofs.Proxy.Turn

/-! The relay is transparent. Whatever order its reads and writes come in, each
side is given what the other has sent, byte for byte, and the recording is that
of a recorder which heard the same. -/

namespace Breadboard

/-! What each side has said in a session. -/

namespace Recorder

def Event.fromClient? : Event → Option Bytes
  | .request _ data => some data
  | _ => none

def Event.fromDevice? : Event → Option Bytes
  | .response _ data => some data
  | _ => none

def clientReads (session : List Event) : List Bytes :=
  session.filterMap Event.fromClient?

def deviceReads (session : List Event) : List Bytes :=
  session.filterMap Event.fromDevice?

end Recorder

namespace Relay

open Recorder

def unwritten (r : Relay) : Bytes :=
  match r.stalled with
  | none => []
  | some t => t.rest

/-- The device has been sent the reads from the client, but for those that are
on their way; the client has been given the reads from the device, but for an
end of the last of them; and both have been recorded. -/
structure Transparent (begun : Relay × Host) (session : List Event)
    (now : Relay × Host) : Prop where
  toDevice : ∃ sent, now.1.link.calls = begun.1.link.calls ++
      sent.map LinkCall.send ∧
    sent ++ now.1.toDevice = clientReads session
  toClient : ∃ writes, now.2.sent = begun.2.sent ++ writes ∧
    Host.said writes ++ now.1.unwritten = (deviceReads session).flatten
  packet : ∀ t ∈ now.1.stalled,
    ∃ data, (deviceReads session).getLast? = some data ∧ t.rest <:+ data
  patient : ∀ t ∈ now.1.stalled, t.Patient
  recorder : now.1.recorder = after session

theorem keep_eq (r : Relay) {p : Progress} {h : Host} {size : Nat}
    {patience : Option Nat} {left : Bytes}
    (leaves : p.Leaves size patience left)
    (fine : ∀ fault, p ≠ .failed fault) :
    ∃ stalled, r.keep (p, h) = ({ r with stalled }, h) ∧
      unwritten { r with stalled } = left ∧
      ∀ t ∈ stalled, t.rest = left ∧ t.patience = patience := by
  cases p with
  | ended n => exact ⟨none, rfl, leaves.1.symm, nofun⟩
  | waiting t =>
      refine ⟨some t, rfl, leaves.1, ?_⟩
      intro t' member
      obtain rfl := Option.mem_some.1 member
      exact ⟨leaves.1, leaves.2.2⟩
  | failed fault => exact absurd rfl (fine fault)

theorem unwritten_of_stalled {r : Relay} {t : Transfer}
    (stalled : r.stalled = some t) : r.unwritten = t.rest := by
  rw [unwritten, stalled]

theorem keep_stalled (r : Relay) (stalled : Option Transfer)
    (x : Progress × Host) : keep { r with stalled } x = r.keep x := by
  obtain ⟨p, h⟩ := x
  cases p with
  | ended n => rfl
  | waiting t => rfl
  | failed fault => rfl

/-! What a step keeps. -/

variable {begun : Relay × Host} {session : List Event} {r : Relay} {h : Host}

theorem Transparent.woken (before : Transparent begun session (r, h))
    {t : Transfer} (stalled : r.stalled = some t)
    (fine : ∀ fault, (t.wake r.channel h).1 ≠ .failed fault) :
    Transparent begun session (r.keep (t.wake r.channel h)) := by
  have patient := before.patient t stalled
  obtain ⟨data, last, suffix⟩ := before.packet t stalled
  obtain ⟨writes, sent, whole⟩ := before.toClient
  obtain ⟨_, left, rest, takes, leaves⟩ := t.wake_takes r.channel patient h
  obtain ⟨more, sent', rfl⟩ := takes.sent
  obtain ⟨stalled', kept, unwritten, rests⟩ :=
    keep_eq r (h := (t.wake r.channel h).2) leaves fine
  rw [unwritten_of_stalled stalled, ← rest] at whole
  rw [kept]
  exact { before with
    toClient := by
      refine ⟨writes ++ more, ?_, ?_⟩
      · rw [sent', sent, List.append_assoc]
      · rw [Host.said_append, unwritten, List.append_assoc, whole]
    packet := by
      intro t' member
      refine ⟨data, last, ?_⟩
      rw [(rests t' member).1]
      exact (List.suffix_append _ left).trans (rest ▸ suffix)
    patient := by
      intro t' member zero
      exact patient ((rests t' member).2.symm.trans zero) }

theorem Transparent.clientRead (before : Transparent begun session (r, h))
    (now : Nat) (data : Bytes) :
    Transparent begun (session ++ [.request (Clock.seconds now) data])
      (r.fromClient now data, h) := by
  obtain ⟨traffic, shown, read⟩ := fromClient_eq now data r
  obtain ⟨sent, calls, whole⟩ := before.toDevice
  have device : deviceReads (session ++ [.request (Clock.seconds now) data]) =
      deviceReads session := by
    rw [deviceReads, List.filterMap_append]
    exact List.append_nil _
  rw [read]
  exact {
    toDevice := by
      refine ⟨sent, calls, ?_⟩
      rw [clientReads, List.filterMap_append, ← List.append_assoc, whole]
      rfl
    toClient := by
      rw [device]
      exact before.toClient
    packet := by
      rw [device]
      exact before.packet
    patient := before.patient
    recorder := by
      rw [after_concat, ← before.recorder]
      rfl }

theorem Transparent.deviceRead (before : Transparent begun session (r, h))
    (free : r.stalled = none) {data : Bytes}
    (fine : ∀ fault, (Transfer.start r.channel data Transfer.stallLimit h).1 ≠
      .failed fault) :
    Transparent begun (session ++ [.response (Clock.seconds h.now) data])
      (r.toClient data h) := by
  obtain ⟨traffic, shown, noted⟩ := r.note_eq h.now data
  obtain ⟨sent, calls, whole⟩ := before.toDevice
  obtain ⟨writes, sent', whole'⟩ := before.toClient
  -- A packet that starts is one that wakes before anything of it is written.
  let packet : Transfer := ⟨data.length, Transfer.stallLimit, data, none⟩
  have device : deviceReads
      (session ++ [.response (Clock.seconds h.now) data]) =
        deviceReads session ++ [data] := by
    rw [deviceReads, List.filterMap_append]
    rfl
  have begins : Transparent begun
      (session ++ [.response (Clock.seconds h.now) data])
      ({ r.note h.now data with stalled := some packet }, h) := {
    toDevice := by
      rw [noted]
      refine ⟨sent, calls, ?_⟩
      rw [whole, clientReads, clientReads, List.filterMap_append]
      exact (List.append_nil _).symm
    toClient := by
      refine ⟨writes, sent', ?_⟩
      rw [unwritten, free, List.append_nil] at whole'
      rw [device, List.flatten_append, ← whole', List.flatten_singleton]
      rfl
    packet := by
      intro t member
      obtain rfl := Option.mem_some.1 member
      exact ⟨data, by rw [device, List.getLast?_concat], List.suffix_rfl⟩
    patient := by
      intro t member
      obtain rfl := Option.mem_some.1 member
      exact Transfer.stallLimit_ne
    recorder := by
      rw [after_concat, ← before.recorder, noted]
      rfl }
  have channel : (r.note h.now data).channel = r.channel := by rw [noted]
  rw [← channel] at fine
  have woken := begins.woken rfl fine
  rw [keep_stalled, channel] at woken
  rw [toClient_eq free]
  exact woken

theorem Turn.transparent {now next : Relay × Host} {more : List Event}
    (turn : Turn now more next) (before : Transparent begun session now) :
    Transparent begun (session ++ more) next := by
  cases turn with
  | outside r same =>
      rw [List.append_nil]
      obtain ⟨writes, sent, whole⟩ := before.toClient
      exact { before with toClient := ⟨writes, same.trans sent, whole⟩ }
  | deviceSent r h data =>
      rw [List.append_nil]
      exact { before with }
  | deviceEnded r h =>
      rw [List.append_nil]
      exact { before with }
  | noticed r h reading =>
      rw [List.append_nil]
      exact { before with }
  | clientRead r h given => exact before.clientRead h.now _
  | forwarded r h fine =>
      rw [List.append_nil, forward]
      split
      · exact before
      · next data rest waits =>
          obtain ⟨sent, calls, whole⟩ := before.toDevice
          refine { before with toDevice := ⟨sent ++ [data], ?_, ?_⟩ }
          · simp only [Link.send, fine, Link.record]
            rw [calls, List.map_append, List.append_assoc]
            rfl
          · rw [← whole, waits, List.append_assoc]
            rfl
  | @deviceRead r h data rest given waits free fine =>
      exact Transparent.deviceRead (r := { r with fromDevice := rest })
        { before with } free fine
  | woken r h stalled fine =>
      rw [List.append_nil]
      exact before.woken stalled fine

theorem Run.transparent {now : Relay × Host} (run : Run begun session now)
    (fresh : Transparent begun [] begun) : Transparent begun session now := by
  induction run with
  | rest => exact fresh
  | turn _ turn ih => exact turn.transparent ih

theorem transparent_begun (nothing : r.toDevice = []) (free : r.stalled = none)
    (recorder : r.recorder = {}) : Transparent (r, h) [] (r, h) where
  toDevice := ⟨[], (List.append_nil _).symm, nothing⟩
  toClient := ⟨[], (List.append_nil _).symm, by rw [unwritten, free]; rfl⟩
  packet := by
    rw [free]
    exact nofun
  patient := by
    rw [free]
    exact nofun
  recorder := recorder

theorem prompt_begun (nothing : r.toDevice = []) (silent : r.fromDevice = []) :
    r.Prompt where
  toDevice := nothing
  settled := by
    intro _ _
    have within := r.readable_le
    rw [silent] at within
    exact Nat.le_zero.1 within

/-- A relay that has started, and whose writes neither fail nor come to a
client who takes too long, is transparent at every moment, and would give the
recording of what it has read in the order in which it has read it. That is so
in whatever order it takes its turns; turns are all it takes; and it takes them
until no read is left that could go on. -/
theorem transparent_of_start {realPort port : Option Text}
    {baudRate bufferSize : Int} {quiet : Bool} {link : Link} {bus : SerialBus}
    {r₀ : Relay} {h h₀ : Host}
    (started : (of realPort port baudRate bufferSize quiet link bus).start h =
      (.ok (), r₀, h₀)) :
    (∀ session now, Run (r₀, h₀) session now →
      Transparent (r₀, h₀) session now ∧
        (now.1.stop now.2).1 = recorded session) ∧
      ∀ happenings : List Happening,
        (happenings.foldl happen (r₀, h₀)).1.Prompt ∧
          (r₀.link.writeFault = none → h₀.fault? .write = none →
            Calmly (r₀, h₀) happenings → ∃ session,
              Run (r₀, h₀) session (happenings.foldl happen (r₀, h₀))) := by
  obtain ⟨channel, bus', realPort', link', isOpen, same⟩ := start_eq started
  constructor
  · intro session now run
    have fresh : Transparent (r₀, h₀) [] (r₀, h₀) := by
      rw [same]
      exact transparent_begun rfl rfl rfl
    have transparent := run.transparent fresh
    refine ⟨transparent, ?_⟩
    rw [recorded, ← transparent.recorder]
    rfl
  · intro happenings
    have prompt : r₀.Prompt := by
      rw [same]
      exact prompt_begun rfl rfl
    refine ⟨foldl_prompt happenings prompt, ?_⟩
    intro linked free calmly
    have fine : Fine (r₀, h₀) := by
      refine ⟨linked, ?_, free⟩
      rw [same]
      exact isOpen
    exact (foldl_ran happenings (r₀, h₀) calmly fine).2

def bridge : Relay :=
  of (some (text "cable")) none 0 4 true {} { ports := [] }

def bridged : Relay × Host := (bridge.start { room := some 2 }).2

/-- Both sides talk at once, and the client has no room for an answer. -/
def chatter : List Happening := [
  .incident (.client [0x68, 0x65, 0x6C, 0x6C, 0x6F]),
  .deviceSends [0x6F, 0x6B, 0x0A], .incident (.client [0x21]),
  .incident (.advance Clock.ticksPerSecond), .deviceSends [0xFF],
  .incident (.drain 2)]

theorem chatter_transparent :
    bridge.start { room := some 2 } = (.ok (), bridged.1, bridged.2) ∧
      bridged.1.link.writeFault = none ∧ bridged.2.fault? .write = none ∧
      Calmly bridged chatter ∧
      (∃ session, Run bridged session (chatter.foldl happen bridged) ∧
        Transparent bridged session (chatter.foldl happen bridged)) ∧
      (chatter.foldl happen bridged).1.Prompt ∧
      (chatter.foldl happen bridged).2.sent.map Prod.snd =
        [[0x6F, 0x6B], [0x0A], [0xFF]] := by
  have started :
      bridge.start { room := some 2 } = (.ok (), bridged.1, bridged.2) := rfl
  have calmly : Calmly bridged chatter := by
    refine ⟨trivial, trivial, trivial, ?_, trivial, trivial, trivial⟩
    unfold Calm Quiet
    decide +kernel
  obtain ⟨transparent, runs⟩ := transparent_of_start started
  obtain ⟨prompt, runs⟩ := runs chatter
  obtain ⟨session, run⟩ := runs rfl rfl calmly
  exact ⟨started, rfl, rfl, calmly,
    ⟨session, run, (transparent session _ run).1⟩, prompt, by decide +kernel⟩

end Relay

end Breadboard
