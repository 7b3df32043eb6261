import Breadboard.Proofs.Recording.Session
import Breadboard.Proofs.Terminal.Transfer
import Breadboard.Proxy.Relay

/-! The turns of a relay. Whatever happens to a relay is made of turns, as long
as no write fails and no client takes too long; and after it no read is left
that could go on. -/

namespace Breadboard

theorem Link.writeFault_send (data : Bytes) (l : Link) :
    (l.send data).writeFault = none := by
  rw [send]
  split
  · rfl
  · next fine => exact fine

namespace Relay

open Recorder

/-! The turns of a relay. -/

def keep (r : Relay) : Progress × Host → Relay × Host
  | (.waiting t, h) => ({ r with stalled := some t }, h)
  | (_, h) => ({ r with stalled := none }, h)

/-- What a relay, its host and its device can do next, and what is recorded of
it. No write to either side fails, and no client leaves the terminal full until
a packet is given up. -/
inductive Turn : Relay × Host → List Event → Relay × Host → Prop
  | outside (r : Relay) {h h' : Host} (same : h'.sent = h.sent) :
      Turn (r, h) [] (r, h')
  | deviceSent (r : Relay) (h : Host) (data : Bytes) :
      Turn (r, h) [] ({ r with fromDevice := r.fromDevice ++ data }, h)
  | deviceEnded (r : Relay) (h : Host) :
      Turn (r, h) [] ({ r with deviceEnded := true }, h)
  | noticed (r : Relay) (h : Host) (reading : Bool) :
      Turn (r, h) [] ({ r with reading }, h)
  | clientRead (r : Relay) (h : Host) {data : Bytes} (given : data ≠ []) :
      Turn (r, h) [.request (Clock.seconds h.now) data]
        (r.fromClient h.now data, h)
  | forwarded (r : Relay) (h : Host) (fine : r.link.writeFault = none) :
      Turn (r, h) [] (r.forward, h)
  | deviceRead (r : Relay) (h : Host) {data rest : Bytes} (given : data ≠ [])
      (waits : r.fromDevice = data ++ rest) (free : r.stalled = none)
      (fine : ∀ fault, (Transfer.start r.channel data Transfer.stallLimit h).1 ≠
        .failed fault) :
      Turn (r, h) [.response (Clock.seconds h.now) data]
        (toClient data { r with fromDevice := rest } h)
  | woken (r : Relay) (h : Host) {t : Transfer} (stalled : r.stalled = some t)
      (fine : ∀ fault, (t.wake r.channel h).1 ≠ .failed fault) :
      Turn (r, h) [] (r.keep (t.wake r.channel h))

inductive Run (begun : Relay × Host) : List Event → Relay × Host → Prop
  | rest : Run begun [] begun
  | turn {session more : List Event} {now next : Relay × Host}
      (run : Run begun session now) (turn : Turn now more next) :
      Run begun (session ++ more) next

/-! What a step changes. -/

theorem report_eq (d : Direction) (data : Bytes) (r : Relay) :
    ∃ traffic shown, r.report d data = { r with traffic, shown } := by
  rw [report]
  split
  · exact ⟨r.traffic, r.shown, rfl⟩
  · exact ⟨_, _, rfl⟩

theorem fromClient_eq (now : Nat) (data : Bytes) (r : Relay) :
    ∃ traffic shown, r.fromClient now data = { r with
      recorder := r.recorder.request (Clock.seconds now) data
      traffic, shown
      toDevice := r.toDevice ++ [data] } := by
  obtain ⟨traffic, shown, reported⟩ := report_eq .toDevice data
    { r with recorder := r.recorder.request (Clock.seconds now) data }
  refine ⟨traffic, shown, ?_⟩
  rw [fromClient, reported]

def note (now : Nat) (data : Bytes) (r : Relay) : Relay :=
  report .fromDevice data
    { r with recorder := r.recorder.response (Clock.seconds now) data }

theorem note_eq (now : Nat) (data : Bytes) (r : Relay) :
    ∃ traffic shown, r.note now data = { r with
      recorder := r.recorder.response (Clock.seconds now) data
      traffic, shown } :=
  report_eq .fromDevice data _

theorem toClient_eq {r : Relay} (free : r.stalled = none) (data : Bytes)
    (h : Host) :
    r.toClient data h = (r.note h.now data).keep
      (Transfer.start r.channel data Transfer.stallLimit h) := by
  obtain ⟨traffic, shown, noted⟩ := r.note_eq h.now data
  rw [noted]
  rw [note] at noted
  rw [toClient, noted]
  dsimp only
  cases Transfer.start r.channel data Transfer.stallLimit h with
  | mk p h' =>
      cases p with
      | ended n => simp only [keep, free]
      | waiting t => rfl
      | failed fault => simp only [keep, free]

def passOne (r : Relay) (h : Host) : Relay × Host :=
  toClient (r.fromDevice.take r.readable)
    { r with fromDevice := r.fromDevice.drop r.readable } h

theorem pass_succ (packets : Nat) (r : Relay) (h : Host) :
    pass (packets + 1) r h =
      if r.stalled.isSome || !r.reading then (r, h)
      else if r.readable = 0 then ({ r with reading := !r.deviceEnded }, h)
      else pass packets (r.passOne h).1 (r.passOne h).2 := by
  rw [pass]
  rfl

theorem passOne_eq (r : Relay) (h : Host) :
    ∃ recorder traffic shown stalled, (r.passOne h).1 =
      { r with
        recorder, traffic, shown, stalled
        fromDevice := r.fromDevice.drop r.readable } := by
  obtain ⟨traffic, shown, noted⟩ := note_eq h.now
    (r.fromDevice.take r.readable)
    { r with fromDevice := r.fromDevice.drop r.readable }
  rw [note] at noted
  rw [passOne, toClient, noted]
  dsimp only
  split
  · exact ⟨_, _, _, _, rfl⟩
  · exact ⟨_, _, _, r.stalled, rfl⟩

/-! How a relay starts. -/

theorem realPort?_eq (r : Relay) :
    ∃ bus realPort, r.realPort?.2 = { r with bus, realPort } := by
  rw [realPort?]
  split
  · exact ⟨r.bus, r.realPort, rfl⟩
  · split
    · exact ⟨_, _, rfl⟩
    · exact ⟨_, r.realPort, rfl⟩

theorem connect_eq (r : Relay) :
    ∃ bus realPort link, r.connect.2 = { r with bus, realPort, link } := by
  obtain ⟨bus, realPort, same⟩ := r.realPort?_eq
  rw [connect]
  split
  · next found =>
      rw [found] at same
      exact ⟨bus, realPort, r.link, same⟩
  · next port r' found =>
      rw [found] at same
      obtain rfl : r' = _ := same
      split
      · exact ⟨_, _, _, rfl⟩
      · split
        · exact ⟨_, _, _, rfl⟩
        · exact ⟨_, _, _, rfl⟩

theorem start_eq {r r₀ : Relay} {h h₀ : Host}
    (started : r.start h = (.ok (), r₀, h₀)) :
    ∃ channel bus realPort link, channel.isOpen = true ∧
      r₀ = { r with channel, bus, realPort, link, running := true } := by
  rw [start] at started
  split at started
  · cases started
  · next channel h' opened =>
      obtain ⟨bus, realPort, link, same⟩ := connect_eq { r with channel }
      split at started
      · next r' connected =>
          rw [connected] at same
          obtain rfl : r' = _ := same
          cases started
          exact ⟨channel, bus, realPort, link,
            Channel.isOpen_of_start opened, rfl⟩
      · cases started

variable {r : Relay} {h : Host}

/-! A relay as it runs. -/

structure Fine (now : Relay × Host) : Prop where
  link : now.1.link.writeFault = none
  channel : now.1.channel.Fine now.2

/-- From one moment to another a relay whose writes do not fail takes turns. -/
def Ran (now next : Relay × Host) : Prop :=
  Fine now → Fine next ∧ ∃ session, Run now session next

theorem Run.trans {now next last : Relay × Host} {more : List Event}
    (first : Run now session next) (second : Run next more last) :
    Run now (session ++ more) last := by
  induction second with
  | rest => rwa [List.append_nil]
  | turn _ turn ih =>
      rw [← List.append_assoc]
      exact .turn ih turn

theorem Ran.refl (now : Relay × Host) : Ran now now :=
  fun fine => ⟨fine, [], .rest⟩

theorem Ran.trans {now next last : Relay × Host} (first : Ran now next)
    (second : Ran next last) : Ran now last := by
  intro fine
  obtain ⟨fine', session, run⟩ := first fine
  obtain ⟨fine'', more, run'⟩ := second fine'
  exact ⟨fine'', session ++ more, run.trans run'⟩

theorem Turn.ran {now next : Relay × Host} {more : List Event}
    (turn : Turn now more next) (fine : Fine next) :
    Fine next ∧ ∃ session, Run now session next :=
  ⟨fine, [] ++ more, .turn .rest turn⟩

theorem outside_ran (r : Relay) {h h' : Host} (sent : h'.sent = h.sent)
    (faults : h'.faults = h.faults) : Ran (r, h) (r, h') := by
  intro fine
  refine (Turn.outside r sent).ran ⟨fine.link, fine.channel.1, ?_⟩
  rw [Host.fault?, faults]
  exact fine.channel.2

theorem clientRead_ran (r : Relay) (h : Host) {data : Bytes}
    (given : data ≠ []) : Ran (r, h) (r.fromClient h.now data, h) := by
  intro fine
  obtain ⟨traffic, shown, read⟩ := fromClient_eq h.now data r
  refine (Turn.clientRead r h given).ran ?_
  rw [read]
  exact ⟨fine.link, fine.channel⟩

theorem readClient_ran (r : Relay) (h : Host) :
    Ran (r, h) (r.readClient h) := by
  obtain ⟨waiting, fault, same⟩ := r.channel.read_eq r.bufferSize.toNat h
  have outside := @outside_ran r h { h with waiting, readFault := fault }
    rfl rfl
  rw [← same] at outside
  rw [readClient]
  split
  · next data h' read =>
      rw [read] at outside
      split
      · exact outside
      · next given =>
          refine outside.trans (clientRead_ran r h' ?_)
          rwa [List.isEmpty_iff] at given
  · next h' _ read =>
      rw [read] at outside
      exact outside

theorem readClientAll_ran (reads : Nat) (r : Relay) (h : Host) :
    Ran (r, h) (readClientAll reads r h) := by
  induction reads generalizing r h with
  | zero => exact .refl _
  | succ reads ih =>
      rw [readClientAll]
      split
      · exact .refl _
      · have once := readClient_ran r h
        dsimp only
        split
        · exact once.trans (ih _ _)
        · exact once

theorem forwardAll_ran (r : Relay) (h : Host) :
    Ran (r, h) (r.forwardAll, h) := by
  -- Each of the reads that wait is sent in a turn of its own.
  obtain ⟨reads, waits⟩ : ∃ reads, r.toDevice = reads := ⟨_, rfl⟩
  induction reads generalizing r with
  | nil =>
      have all : r.forwardAll = r := by
        rw [forwardAll, waits, List.foldl_nil, ← waits]
      rw [all]
      exact .refl _
  | cons data rest ih =>
      have first : r.forward =
          { r with link := r.link.send data, toDevice := rest } := by
        rw [forward, waits]
      have all : r.forwardAll = r.forward.forwardAll := by
        rw [first, forwardAll, forwardAll, waits, List.foldl_cons]
      rw [all]
      refine Ran.trans ?_ (ih r.forward (by rw [first]))
      intro fine
      refine (Turn.forwarded r h fine.link).ran ?_
      rw [first]
      exact ⟨Link.writeFault_send data r.link, fine.channel⟩

theorem fine_keep {r : Relay} {x : Progress × Host}
    (link : r.link.writeFault = none) (channel : r.channel.Fine x.2) :
    Fine (r.keep x) := by
  obtain ⟨p, h⟩ := x
  cases p with
  | ended n => exact ⟨link, channel⟩
  | waiting t => exact ⟨link, channel⟩
  | failed fault => exact ⟨link, channel⟩

theorem fine_toClient (fine : Fine (r, h)) (free : r.stalled = none)
    (data : Bytes) : Fine (r.toClient data h) := by
  obtain ⟨traffic, shown, noted⟩ := r.note_eq h.now data
  rw [toClient_eq free, noted]
  exact fine_keep fine.link (Transfer.fine_go fine.channel _ _ _)

theorem readable_le (r : Relay) : r.readable ≤ r.fromDevice.length := by
  rw [readable]
  split
  · split
    · exact Nat.le_refl _
    · exact Nat.zero_le _
  · exact Nat.min_le_right _ _

theorem passOne_ran {r : Relay} (free : r.stalled = none)
    (much : r.readable ≠ 0) (h : Host) : Ran (r, h) (r.passOne h) := by
  have given : r.fromDevice.take r.readable ≠ [] := by
    intro nothing
    have length := congrArg List.length nothing
    rw [List.length_take, Nat.min_eq_left r.readable_le] at length
    exact much length
  intro fine
  refine (Turn.deviceRead r h given (List.take_append_drop _ _).symm free
    (Transfer.go_of_fine fine.channel _ _ _)).ran ?_
  exact fine_toClient
    (r := { r with fromDevice := r.fromDevice.drop r.readable })
    ⟨fine.link, fine.channel⟩ free _

theorem pass_ran (packets : Nat) (r : Relay) (h : Host) :
    Ran (r, h) (pass packets r h) := by
  induction packets generalizing r h with
  | zero => exact .refl _
  | succ packets ih =>
      rw [pass_succ]
      split
      · exact .refl _
      · next ready =>
          split
          · intro fine
            exact (Turn.noticed r h _).ran ⟨fine.link, fine.channel⟩
          · next much =>
              have free : r.stalled = none := by
                cases stalled : r.stalled with
                | none => rfl
                | some t => simp [stalled] at ready
              exact (passOne_ran free much h).trans (ih _ _)

theorem wake_ran (r : Relay) (h : Host) : Ran (r, h) (r.wake h) := by
  rw [wake]
  split
  · exact .refl _
  · next t stalled =>
      have woken : Ran (r, h) (r.keep (t.wake r.channel h)) := fun fine =>
        (Turn.woken r h stalled (Transfer.go_of_fine fine.channel _ _ _)).ran
          (fine_keep fine.link (Transfer.fine_go fine.channel _ _ _))
      split
      · next t' h' waits =>
          rw [waits] at woken
          exact woken
      · next p h' through waits =>
          rw [waits] at woken
          refine Ran.trans ?_ (pass_ran _ _ h')
          cases p with
          | ended n => exact woken
          | waiting t => exact (through t rfl).elim
          | failed fault => exact woken

inductive Happening where
  | incident (i : Incident)
  | deviceSends (data : Bytes)
  | deviceEnds

def happen (now : Relay × Host) : Happening → Relay × Host
  | .incident i => now.1.meet i now.2
  | .deviceSends data => now.1.deviceSends data now.2
  | .deviceEnds => now.1.deviceEnds now.2

def Quiet (till : Nat) (r : Relay) (h : Host) : Prop :=
  ∀ time ∈ r.stalled.bind (·.deadline), till < Clock.ringTime time h.now

/-- What neither makes writes fail nor takes a client too long. -/
def Calm (now : Relay × Host) : Happening → Prop
  | .incident (.fault .write fault) => fault = none
  | .incident (.advance span) =>
      let target := Clock.after now.2.now span
      Quiet target now.1 now.2 ∧ Quiet target now.1 { now.2 with now := target }
  | _ => True

def Calmly : Relay × Host → List Happening → Prop
  | _, [] => True
  | now, happening :: rest => Calm now happening ∧
      Calmly (happen now happening) rest

theorem run_of_quiet {till : Nat} (quiet : Quiet till r h) (packets : Nat) :
    run till packets r h = (r, h) := by
  cases packets with
  | zero => rfl
  | succ packets =>
      rw [run]
      split
      · next time due => exact if_neg (Nat.not_le.2 (quiet time due))
      · rfl

theorem setFault_ran (r : Relay) (h : Host) {call : HostCall}
    {fault : Option HostFault}
    (calm : Calm (r, h) (.incident (.fault call fault))) :
    Ran (r, h) (r, h.setFault call fault) := by
  intro fine
  refine (@Turn.outside r h (h.setFault call fault) rfl).ran
    ⟨fine.link, fine.channel.1, ?_⟩
  refine Host.fault?_setFault_eq_none ?_ fine.channel.2
  rintro rfl
  exact calm

theorem meet_ran (i : Incident) (r : Relay) (h : Host)
    (calm : Calm (r, h) (.incident i)) : Ran (r, h) (r.meet i h) := by
  have once : ∀ h', Ran (r, h') ((r.readClient h').1.forwardAll,
      (r.readClient h').2) := fun h' =>
    (readClient_ran r h').trans (forwardAll_ran _ _)
  cases i with
  | client data =>
      have outside := outside_ran r (h.sent_meet (.client data)) rfl
      exact (outside.trans (readClientAll_ran _ r _)).trans
        (forwardAll_ran _ _)
  | hangUp => exact (outside_ran r (h.sent_meet .hangUp) rfl).trans (once _)
  | wake => exact once h
  | readFault fault =>
      exact (outside_ran r (h.sent_meet (.readFault fault)) rfl).trans (once _)
  | drain n =>
      exact (outside_ran r (h.sent_meet (.drain n)) rfl).trans (wake_ran r _)
  | advance span =>
      rw [meet, run_of_quiet calm.1]
      dsimp only
      rw [run_of_quiet calm.2]
      exact outside_ran r rfl rfl
  | room n => exact outside_ran r rfl rfl
  | fault call fault => exact setFault_ran r h calm
  | signal => exact .refl _

theorem happen_ran (now : Relay × Host) {happening : Happening}
    (calm : Calm now happening) : Ran now (happen now happening) := by
  obtain ⟨r, h⟩ := now
  cases happening with
  | incident i => exact meet_ran i r h calm
  | deviceSends data =>
      refine Ran.trans ?_ (pass_ran _ _ h)
      exact fun fine => (Turn.deviceSent r h data).ran ⟨fine.link, fine.channel⟩
  | deviceEnds =>
      refine Ran.trans ?_ (pass_ran _ _ h)
      exact fun fine => (Turn.deviceEnded r h).ran ⟨fine.link, fine.channel⟩

theorem foldl_ran (happenings : List Happening) (now : Relay × Host)
    (calmly : Calmly now happenings) :
    Ran now (happenings.foldl happen now) := by
  induction happenings generalizing now with
  | nil => exact .refl now
  | cons happening rest ih =>
      exact (happen_ran now calmly.1).trans (ih _ calmly.2)

/-! A relay at rest. -/

/-- The device's side has been read as far as the client has room for it. -/
def Settled (r : Relay) : Prop :=
  r.stalled = none → r.reading = true → r.readable = 0

theorem Settled.readClient (settled : r.Settled) (h : Host) :
    (r.readClient h).1.Settled := by
  rw [Relay.readClient]
  split
  · next data h' _ =>
      split
      · exact settled
      · obtain ⟨traffic, shown, read⟩ := fromClient_eq h'.now data r
        rw [read]
        exact settled
  · exact settled

theorem Settled.readClientAll (settled : r.Settled) (reads : Nat) (h : Host) :
    (readClientAll reads r h).1.Settled := by
  induction reads generalizing r h with
  | zero => exact settled
  | succ reads ih =>
      rw [Relay.readClientAll]
      split
      · exact settled
      · dsimp only
        split
        · exact ih (settled.readClient h) _
        · exact settled.readClient h

theorem toDevice_pass (packets : Nat) (r : Relay) (h : Host) :
    (pass packets r h).1.toDevice = r.toDevice := by
  induction packets generalizing r h with
  | zero => rfl
  | succ packets ih =>
      rw [pass_succ]
      split
      · rfl
      · split
        · rfl
        · obtain ⟨_, _, _, _, same⟩ := r.passOne_eq h
          rw [ih, same]

theorem settled_pass {packets : Nat} (r : Relay) (h : Host)
    (enough : r.fromDevice.length < packets) :
    (pass packets r h).1.Settled := by
  induction packets generalizing r h with
  | zero => exact absurd enough (Nat.not_lt_zero _)
  | succ packets ih =>
      rw [pass_succ]
      split
      · next stuck =>
          intro (free : r.stalled = none) (reading : r.reading = true)
          simp [free, reading] at stuck
      · split
        · next nothing => exact fun _ _ => nothing
        · next much =>
            -- A packet is not empty, so what waits gets shorter.
            obtain ⟨_, _, _, _, same⟩ := r.passOne_eq h
            have shorter : (r.passOne h).1.fromDevice =
                r.fromDevice.drop r.readable := by
              rw [same]
            refine ih _ _ ?_
            rw [shorter, List.length_drop]
            have within := r.readable_le
            omega

/-- Nothing that a relay has read from the client is on its way, and nothing
that it could read from the device waits while the client has room. -/
structure Prompt (r : Relay) : Prop where
  toDevice : r.toDevice = []
  settled : r.Settled

theorem passAll_prompt (forwarded : r.toDevice = []) (h : Host) :
    (r.passAll h).1.Prompt where
  toDevice := (toDevice_pass _ r h).trans forwarded
  settled := settled_pass r h (Nat.lt_succ_self _)

theorem Prompt.wake (prompt : r.Prompt) (h : Host) :
    (r.wake h).1.Prompt := by
  rw [Relay.wake]
  split
  · exact prompt
  · split
    · exact ⟨prompt.toDevice, nofun⟩
    · exact passAll_prompt (r := { r with stalled := none }) prompt.toDevice _

theorem Prompt.run (prompt : r.Prompt) (till packets : Nat) (h : Host) :
    (run till packets r h).1.Prompt := by
  induction packets generalizing r h with
  | zero => exact prompt
  | succ packets ih =>
      rw [Relay.run]
      cases r.stalled.bind (·.deadline) with
      | none => exact prompt
      | some time =>
          dsimp only
          by_cases late : Clock.ringTime time h.now ≤ till
          · rw [if_pos late]
            exact ih (passAll_prompt (r := { r with stalled := none })
              prompt.toDevice _) _
          · rw [if_neg late]
            exact prompt

theorem Prompt.meet (prompt : r.Prompt) (i : Incident) (h : Host) :
    (r.meet i h).1.Prompt := by
  have once : ∀ h', (r.readClient h').1.forwardAll.Prompt := fun h' =>
    ⟨rfl, prompt.settled.readClient h'⟩
  cases i with
  | client data => exact ⟨rfl, prompt.settled.readClientAll _ _⟩
  | hangUp => exact once _
  | wake => exact once _
  | readFault fault => exact once _
  | drain n => exact prompt.wake _
  | advance span =>
      rw [Relay.meet]
      dsimp only
      exact (prompt.run _ _ h).run _ _ _
  | room n => exact prompt
  | fault call fault => exact prompt
  | signal => exact prompt

theorem happen_prompt {now : Relay × Host} (prompt : now.1.Prompt)
    (happening : Happening) : (happen now happening).1.Prompt := by
  cases happening with
  | incident i => exact prompt.meet i now.2
  | deviceSends data =>
      exact passAll_prompt (r := { now.1 with
        fromDevice := now.1.fromDevice ++ data }) prompt.toDevice now.2
  | deviceEnds =>
      exact passAll_prompt (r := { now.1 with deviceEnded := true })
        prompt.toDevice now.2

theorem foldl_prompt (happenings : List Happening) {now : Relay × Host}
    (prompt : now.1.Prompt) : (happenings.foldl happen now).1.Prompt := by
  induction happenings generalizing now with
  | nil => exact prompt
  | cons happening rest ih => exact ih (happen_prompt prompt happening)

end Relay

end Breadboard
