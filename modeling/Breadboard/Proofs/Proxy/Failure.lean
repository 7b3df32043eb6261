import Breadboard.Proofs.Proxy.Turn
import Breadboard.Proofs.Serial.Lines
import Breadboard.Proofs.Terminal.Release

/-! Starts of a relay that fail. The host gets back all that the channel was given
and every line that was opened in a search is closed; the link is another matter
only where it was made and cannot be reset. A fault that the channel does not look
out for is one that the relay does not look out for either. -/

namespace Breadboard

namespace Link

/-- What waits in one direction or the other cannot be thrown away. -/
inductive Unreset (l : Link) : Prop
  | input {cause : Text} (fails : l.resetInputFault = some cause) : Unreset l
  | output {cause : Text} (fails : l.resetOutputFault = some cause) : Unreset l

theorem connect_cases (port : Text) (baudRate : Int) (l : Link) :
    (∃ fault l', l.connect port baudRate = (.error fault, l') ∧
      l'.isOpen = l.isOpen ∧ l.connectFault = some fault) ∨
    ∃ l', l.connect port baudRate = (.ok (), l') ∧ l'.isOpen = true ∧
      (l'.Unreset ↔ l.Unreset) ∧ l.connectFault = none := by
  rw [connect]
  split
  · next fault fails => exact .inl ⟨fault, _, rfl, rfl, fails⟩
  · next works =>
      refine .inr ⟨_, rfl, rfl, ⟨fun unreset => ?_, fun unreset => ?_⟩, works⟩
      · cases unreset with
        | input fails => exact .input fails
        | output fails => exact .output fails
      · cases unreset with
        | input fails => exact .input fails
        | output fails => exact .output fails

theorem reset_cases (l : Link) :
    (∃ cause l', l.reset = (.error cause, l') ∧ l'.isOpen = l.isOpen ∧
      l.Unreset) ∨
    ∃ l', l.reset = (.ok (), l') ∧ ¬ l.Unreset := by
  rw [reset]
  dsimp only
  split
  · next fails => exact .inl ⟨_, _, rfl, rfl, .input fails⟩
  · next input =>
      split
      · next fails => exact .inl ⟨_, _, rfl, rfl, .output fails⟩
      · next output =>
          refine .inr ⟨_, rfl, fun unreset => ?_⟩
          cases unreset with
          | input fails =>
              rw [show l.resetInputFault = none from input] at fails
              cases fails
          | output fails =>
              rw [show l.resetOutputFault = none from output] at fails
              cases fails

end Link

namespace Relay

variable {r : Relay} {h : Host}

structure Idle (r : Relay) : Prop where
  stopped : r.running = false
  channel : r.channel.Idle
  link : r.link.isOpen = false

theorem idle_of (realPort port : Option Text) (baudRate bufferSize : Int)
    (quiet : Bool) {link : Link} (bus : SerialBus) (off : link.isOpen = false) :
    (Relay.of realPort port baudRate bufferSize quiet link bus).Idle :=
  ⟨rfl, Channel.idle_of (port.map .path), off⟩

inductive Offline (r : Relay) : Prop
  | search {fault : Discovery.Fault} (unset : r.realPort = none)
      (fails : (Discovery.find none r.baudRate r.bus).1 = .error fault) : Offline r
  | connect {fault : HostFault} (fails : r.link.connectFault = some fault) :
      Offline r

theorem offline_iff {channel : Channel} :
    Offline { r with channel } ↔ r.Offline := by
  constructor <;>
    · intro offline
      cases offline with
      | search unset fails => exact .search unset fails
      | connect fails => exact .connect fails

/-- How an attempt to connect ends: before there is a link, with one that cannot be
reset, or with one that has been. -/
inductive Attempt (r : Relay) : Except RelayFault Unit × Relay → Prop
  | failed {fault : RelayFault} {bus : SerialBus} {realPort : Option Text}
      {link : Link} (lines : bus.openLines ⊆ r.bus.openLines)
      (offline : r.Offline) (off : link.isOpen = false)
      (reported : fault.isReported = true) :
      Attempt r (.error fault, { r with bus, realPort, link })
  | unreset {cause : Text} {bus : SerialBus} {realPort : Option Text}
      {link : Link} (lines : bus.openLines ⊆ r.bus.openLines)
      (online : ¬ r.Offline) (on : link.isOpen = true)
      (unreset : r.link.Unreset) :
      Attempt r (.error (.reset cause), { r with bus, realPort, link })
  | connected {bus : SerialBus} {realPort : Option Text} {link : Link}
      (online : ¬ r.Offline) (reset : ¬ r.link.Unreset) :
      Attempt r (.ok (), { r with bus, realPort, link })

theorem realPort?_cases (r : Relay) :
    (∃ fault bus, r.realPort? = (.error (.discovery fault), { r with bus }) ∧
      bus.openLines ⊆ r.bus.openLines ∧ r.Offline) ∨
    ∃ port bus realPort, r.realPort? = (.ok port, { r with bus, realPort }) ∧
      bus.openLines ⊆ r.bus.openLines ∧
      (r.Offline → r.link.connectFault ≠ none) := by
  have lines := Discovery.openLines_find none r.baudRate r.bus
  rw [realPort?]
  split
  · next port set =>
      refine .inr ⟨port, r.bus, r.realPort, rfl, List.Subset.refl _, ?_⟩
      intro offline
      cases offline with
      | search unset =>
          rw [set] at unset
          cases unset
      | connect fails =>
          rw [fails]
          exact Option.some_ne_none _
  · next unset =>
      split
      · next client bus found =>
          rw [found] at lines
          refine .inr ⟨client.port, bus, some client.port, rfl, lines, ?_⟩
          intro offline
          cases offline with
          | search _ fails =>
              rw [found] at fails
              cases fails
          | connect fails =>
              rw [fails]
              exact Option.some_ne_none _
      · next fault bus found =>
          rw [found] at lines
          exact .inl ⟨fault, bus, rfl, lines, .search unset (congrArg Prod.fst found)⟩

theorem attempt_connect (off : r.link.isOpen = false) : r.Attempt r.connect := by
  rw [connect]
  rcases r.realPort?_cases with
    ⟨fault, bus, found, lines, offline⟩ | ⟨port, bus, realPort, found, lines, online⟩
  · rw [found]
    exact .failed lines offline off rfl
  · rw [found]
    dsimp only
    rcases r.link.connect_cases port r.baudRate with
      ⟨fault, link, linked, still, fails⟩ | ⟨link, linked, on, same, works⟩
    · rw [linked]
      exact .failed lines (.connect fails) (still.trans off) rfl
    · rw [linked]
      dsimp only
      have online : ¬ r.Offline := fun offline => online offline works
      rcases link.reset_cases with
        ⟨cause, link', done, still, unreset⟩ | ⟨link', done, reset⟩
      · rw [done]
        exact .unreset lines online (still.trans on) (same.1 unreset)
      · rw [done]
        exact .connected online fun unreset => reset (same.2 unreset)

/-! Starts. -/

inductive Barred (r : Relay) (h : Host) : Prop
  | channel (barred : r.channel.Barred h) : Barred r h
  | offline (offline : r.Offline) : Barred r h

/-- A relay after a failed start: it does not run, the host has got everything
back, and every line is closed that was not open before. A link under the chosen
name that was made is gone if the host removes it. -/
structure Recovers (r : Relay) (h : Host) (r' : Relay) (h' : Host) : Prop where
  stopped : r'.running = false
  channel : r'.channel.Idle
  host : h.Regains h'
  unlinked : ¬ r.channel.Barred h → h.fault? .remove = none →
    ∀ name, r.channel.chosenName = some (.path name) → name ≠ Host.terminalName →
      h'.files.has name = false
  lines : r'.bus.openLines ⊆ r.bus.openLines

/-- How a start ends: a step before the link is reset fails, or the link cannot be
reset, or no step fails; or a fault gets by and leaves the channel open. -/
inductive Begun (r : Relay) (h : Host) :
    Except RelayFault Unit × Relay × Host → Prop
  | failed {fault : RelayFault} {r' : Relay} {h' : Host}
      (recovers : r.Recovers h r' h') (barred : r.Barred h)
      (caught : r.channel.Caught h) (off : r'.link.isOpen = false)
      (reported : fault.isReported = true) : Begun r h (.error fault, r', h')
  | escaped {fault : ChannelFault} {r' : Relay} {h' : Host}
      (escapes : r.channel.Escapes h fault) (stopped : r'.running = false)
      (isOpen : r'.channel.isOpen = true) :
      Begun r h (.error (.channel fault), r', h')
  | unreset {cause : Text} {r' : Relay} {h' : Host}
      (recovers : r.Recovers h r' h') (free : ¬ r.Barred h)
      (caught : r.channel.Caught h) (on : r'.link.isOpen = true) (unreset : r.link.Unreset) :
      Begun r h (.error (.reset cause), r', h')
  | started {r' : Relay} {h' : Host} (free : ¬ r.Barred h)
      (caught : r.channel.Caught h) (reset : ¬ r.link.Unreset) :
      Begun r h (.ok (), r', h')

theorem begun_start (idle : r.Idle) (h : Host) : r.Begun h (r.start h) := by
  have starting := idle.channel.starting h
  rw [start]
  generalize opened : r.channel.start h = result at starting ⊢
  cases starting with
  | @failed cause channel h' barred caught released regains =>
      have recovers : r.Recovers h { r with channel } h' :=
        ⟨idle.stopped, released, regains, absurd barred, List.Subset.refl _⟩
      exact .failed recovers (.channel barred) caught idle.link rfl
  | escaped escapes isOpen => exact .escaped escapes idle.stopped isOpen
  | @opened channel h' unbarred caught owns name published =>
      dsimp only
      -- The channel is released as it was opened, since connecting leaves it alone.
      have closed : channel.close h' = channel.release h' := by
        rw [Channel.close, if_pos (Channel.isOpen_of_start opened)]
      have recovers : ∀ bus realPort link, bus.openLines ⊆ r.bus.openLines →
          r.Recovers h { r with channel := (channel.release h').1, bus, realPort, link }
            (channel.release h').2 := fun bus realPort link lines => {
        stopped := idle.stopped
        channel := Channel.idle_release channel h'
        host := owns.regains
        unlinked := fun _ works chosenName chosen other =>
          published.unlinks ((Host.fault?_congr owns.faults _).trans works)
            (name.trans chosen) other
        lines }
      have free : ¬ Offline { r with channel } → ¬ r.Barred h := by
        intro online barred
        cases barred with
        | channel barred => exact unbarred barred
        | offline offline => exact online (offline_iff.2 offline)
      have attempt := attempt_connect (r := { r with channel }) idle.link
      generalize connect { r with channel } = result at attempt
      cases attempt with
      | failed lines offline off reported =>
          dsimp only
          rw [closed]
          exact .failed (recovers _ _ _ lines) (.offline (offline_iff.1 offline)) caught
            off reported
      | unreset lines online on unreset =>
          dsimp only
          rw [closed]
          exact .unreset (recovers _ _ _ lines) (free online) caught on unreset
      | connected online reset => exact .started (free online) caught reset

/-- Where a link cannot be reset, it stays. -/
theorem unreset_start_stays (idle : r.Idle) (free : ¬ r.Barred h)
    (caught : r.channel.Caught h) (unreset : r.link.Unreset) :
    ∃ cause r' h', r.start h = (.error (.reset cause), r', h') ∧
      r.Recovers h r' h' ∧ r'.link.isOpen = true := by
  have begun := r.begun_start idle h
  generalize r.start h = result at begun
  cases begun with
  | failed _ barred => exact absurd barred free
  | escaped escapes => exact absurd escapes (caught _)
  | unreset recovers _ _ on => exact ⟨_, _, _, rfl, recovers, on⟩
  | started _ _ reset => exact absurd unreset reset

/-- Where a fault gets by that is not looked out for, the channel stays open. -/
theorem escaped_start_stays (idle : r.Idle) {fault : ChannelFault}
    (escapes : r.channel.Escapes h fault) :
    ∃ r' h', r.start h = (.error (.channel fault), r', h') ∧
      fault.isReported = false ∧ r'.running = false ∧ r'.channel.isOpen = true := by
  have begun := r.begun_start idle h
  generalize r.start h = result at begun
  cases begun with
  | escaped same stopped isOpen =>
      cases same.unique escapes
      exact ⟨_, _, rfl, escapes.isReported, stopped, isOpen⟩
  | failed _ _ caught => exact absurd escapes (caught _)
  | unreset _ _ caught => exact absurd escapes (caught _)
  | started _ caught => exact absurd escapes (caught _)

theorem start_ok (idle : r.Idle) (free : ¬ r.Barred h) (caught : r.channel.Caught h)
    (reset : ¬ r.link.Unreset) : ∃ r' h', r.start h = (.ok (), r', h') := by
  have begun := r.begun_start idle h
  generalize r.start h = result at begun
  cases begun with
  | failed _ barred => exact absurd barred free
  | escaped escapes => exact absurd escapes (caught _)
  | unreset _ _ _ _ unreset => exact absurd unreset reset
  | started => exact ⟨_, _, rfl⟩

end Relay

end Breadboard
