import Breadboard.Emulator.Device
import Breadboard.Proofs.Emulator.Story
import Mathlib.Logic.Relation

/-! The turns of a device. Reads, the dispatch, its alarms, the room in the
terminal and a stop may come in any order and at any time: requests are still
served one after another, in the order in which they came in. A device that
runs takes such turns, lets no request wait for nothing, and in time serves all
of them. -/

namespace Breadboard

/-! No request waits for nothing. -/

/-- Whoever takes the answer cannot keep the activity waiting for ever. -/
def Activity.Timed : Activity → Prop
  | sending t _ => t.Timed
  | _ => True

namespace Dispatch

/-- A dispatch that has nothing to do has nothing to begin with, and what it is
busy with does not wait for a client for ever. -/
structure Prompt (d : Dispatch) : Prop where
  idle : d.activity.isIdle = true → d.queue = []
  timed : d.activity.Timed

theorem prompt_of_busy {d : Dispatch} (busy : d.activity.isIdle = false)
    (timed : d.activity.Timed) : d.Prompt where
  idle := by
    intro idle
    rw [busy] at idle
    cases idle
  timed := timed

variable (c : Channel) {d : Dispatch} (h : Host)

theorem carryOut_timed (acts : List Act) (dice : Dice) :
    (carryOut c acts dice h).1.Timed := by
  induction acts generalizing dice h with
  | nil => trivial
  | cons act acts ih =>
      cases act with
      | wait delay jitter =>
          simp only [carryOut]
          split
          · exact ih _ _
          · trivial
      | pause seconds =>
          rw [carryOut]
          split
          · exact ih _ _
          · trivial
      | write data =>
          rw [carryOut]
          split
          · split
            · trivial
            · exact ih _ _
          · next waits => exact Transfer.go_timed rfl waits
          · trivial
      | fail fault => trivial

theorem serve_prompt (queue : List Text) (engine : Engine)
    (events : List DispatchEvent) :
    (serve c queue engine events h).1.Prompt := by
  induction queue generalizing engine events h with
  | nil => exact ⟨fun _ => rfl, trivial⟩
  | cons request queue ih =>
      have timed := carryOut_timed c h ((engine.answer request).1.getD [])
        (engine.answer request).2.dice
      simp only [serve]
      split
      · exact ih _ _ _
      · next activity dice h' busy carried =>
          rw [carried] at timed
          exact prompt_of_busy (Activity.isIdle_eq_false busy) timed

theorem accept_eq (request : Text) (d : Dispatch) :
    d.accept c request h =
      if d.activity.isIdle then
        serve c (d.enqueue request).queue d.engine (d.enqueue request).events h
      else (d.enqueue request, h) := by
  rw [accept, enqueue]
  cases d.activity with
  | idle => rfl
  | sleeping till acts => rfl
  | sending t acts => rfl

theorem resume_prompt (acts : List Act) : (resume c acts d h).1.Prompt := by
  have timed := carryOut_timed c h acts d.engine.dice
  rw [resume]
  split
  · exact serve_prompt c _ _ _ _
  · next activity dice h' busy carried =>
      rw [carried] at timed
      exact prompt_of_busy (Activity.isIdle_eq_false busy) timed

theorem ring_prompt (prompt : d.Prompt) : (ring c d h).1.Prompt := by
  rw [ring]
  split
  · exact prompt
  · exact resume_prompt c _ _
  · exact serve_prompt c _ _ _ _

theorem wake_prompt (prompt : d.Prompt) : (wake c d h).1.Prompt := by
  rw [wake]
  split
  · next t acts activity =>
      have timed := prompt.timed
      rw [activity] at timed
      split
      · split
        · exact serve_prompt c _ _ _ _
        · exact resume_prompt c _ _
      · next waits =>
          exact prompt_of_busy rfl (Transfer.go_timed timed.1 waits)
      · exact serve_prompt c _ _ _ _
  · exact prompt

end Dispatch

theorem DeviceState.ne_stopped {s : DeviceState} (on : s.dispatches = true) :
    s ≠ .stopped := by
  rintro rfl
  cases on

namespace VirtualDevice

/-- Bytes are heard; a request that they make is not begun with. -/
def hear (data : Bytes) (d : VirtualDevice) : VirtualDevice :=
  let (request, inbox) := Inbox.feed d.inbox data
  let d := { d with inbox }
  match request with
  | none => d
  | some request =>
      if d.state.dispatches then { d with dispatch := d.dispatch.enqueue request }
      else d

def dispatched (d : VirtualDevice) (next : Dispatch × Host) :
    VirtualDevice × Host := ({ d with dispatch := next.1 }, next.2)

inductive Turn : VirtualDevice × Host → VirtualDevice × Host → Prop
  | outside (d : VirtualDevice) {h h' : Host} (same : h'.sent = h.sent) :
      Turn (d, h) (d, h')
  | heard (d : VirtualDevice) (h : Host) (data : Bytes) :
      Turn (d, h) (d.hear data, h)
  | taken (d : VirtualDevice) (h : Host) (on : d.state.dispatches = true)
      (idle : d.dispatch.activity.isIdle = true) :
      Turn (d, h) (d.dispatched (Dispatch.serve d.channel d.dispatch.queue
        d.dispatch.engine d.dispatch.events h))
  | rung (d : VirtualDevice) (h : Host) (on : d.state.dispatches = true) :
      Turn (d, h) (d.dispatched (d.dispatch.ring d.channel h))
  | woken (d : VirtualDevice) (h : Host) (on : d.state.dispatches = true) :
      Turn (d, h) (d.dispatched (d.dispatch.wake d.channel h))
  | draining (d : VirtualDevice) (h : Host) (on : d.state.dispatches = true)
      (till : Option Nat) : Turn (d, h) ({ d with state := .draining till }, h)
  | shut (d : VirtualDevice) (h : Host) : Turn (d, h) (d.shutDown h)

abbrev Turns : VirtualDevice × Host → VirtualDevice × Host → Prop :=
  Relation.ReflTransGen Turn

/-! Whatever the turns are, the requests are in order. -/

/-- There is a story, and it goes on unless the device has stopped. -/
def Orderly (d₀ : VirtualDevice) (h₀ : Host) (now : VirtualDevice × Host) :
    Prop :=
  ∃ s : Story, s.Tells d₀.dispatch h₀ now.1.dispatch now.2 ∧
    (now.1.state ≠ .stopped → s.Live now.1.dispatch)

variable {d₀ d : VirtualDevice} {h₀ h : Host}

theorem Orderly.follows (orderly : Orderly d₀ h₀ (d, h))
    (on : d.state ≠ .stopped) :
    Dispatch.Follows d₀.dispatch h₀ (d.dispatch, h) := by
  obtain ⟨s, tells, live⟩ := orderly
  exact ⟨s, tells, live on⟩

theorem orderly_of_follows {next : Dispatch × Host}
    (follows : Dispatch.Follows d₀.dispatch h₀ next) :
    Orderly d₀ h₀ (d.dispatched next) := by
  obtain ⟨s, tells, live⟩ := follows
  exact ⟨s, tells, fun _ => live⟩

theorem Turn.orderly {now next : VirtualDevice × Host} (turn : Turn now next)
    (orderly : Orderly d₀ h₀ now) : Orderly d₀ h₀ next := by
  cases turn with
  | outside d same =>
      obtain ⟨s, tells, live⟩ := orderly
      exact ⟨s, { tells with sent := same.trans tells.sent }, live⟩
  | heard d h data =>
      rw [hear]
      obtain ⟨request, inbox⟩ := Inbox.feed d.inbox data
      cases request with
      | none => exact orderly
      | some request =>
          dsimp only
          split
          · next on =>
              exact orderly_of_follows (d := { d with inbox })
                (Dispatch.enqueue_follows (orderly.follows (DeviceState.ne_stopped on))
                  request)
          · exact orderly
  | taken d h on idle =>
      exact orderly_of_follows
        (Dispatch.turn_follows d.channel (orderly.follows (DeviceState.ne_stopped on)) idle)
  | rung d h on =>
      exact orderly_of_follows
        (Dispatch.ring_follows d.channel (orderly.follows (DeviceState.ne_stopped on)))
  | woken d h on =>
      exact orderly_of_follows
        (Dispatch.wake_follows d.channel (orderly.follows (DeviceState.ne_stopped on)))
  | draining d h on till =>
      obtain ⟨s, tells, live⟩ := orderly
      exact ⟨s, tells, fun _ => live (DeviceState.ne_stopped on)⟩
  | shut d h =>
      obtain ⟨s, tells, _⟩ := orderly
      refine ⟨s, { tells with
        sent := (d.channel.sent_close h).trans tells.sent }, ?_⟩
      exact fun on => absurd rfl on

theorem Turns.orderly {now next : VirtualDevice × Host}
    (turns : Turns now next) (orderly : Orderly d₀ h₀ now) :
    Orderly d₀ h₀ next := by
  induction turns with
  | refl => exact orderly
  | tail _ turn ih => exact turn.orderly ih

theorem orderly_start {d : VirtualDevice} {h : Host}
    (started : d.start h = (.ok (), d₀, h₀)) :
    Orderly d₀ h₀ (d₀, h₀) := by
  refine ⟨{}, Story.tells_begin _ _, fun _ => ?_⟩
  rw [start] at started
  split at started
  · split at started
    · cases started
      exact ⟨rfl, rfl, nofun⟩
    · cases started
  · cases started

/-! A device as it runs. -/

/-- A device on which no request waits for nothing, and which is not busy unless it
dispatches. -/
structure Prompt (d : VirtualDevice) : Prop where
  dispatch : d.dispatch.Prompt
  off : d.state.dispatches = false → d.dispatch.activity.isIdle = true

theorem prompt_of_dispatching (on : d.state.dispatches = true)
    (prompt : d.dispatch.Prompt) : d.Prompt where
  dispatch := prompt
  off off := by
    rw [on] at off
    cases off

theorem prompt_start {d : VirtualDevice} {h : Host}
    (started : d.start h = (.ok (), d₀, h₀)) : d₀.Prompt := by
  rw [start] at started
  split at started
  · split at started
    · cases started
      exact ⟨⟨fun _ => rfl, trivial⟩, fun _ => rfl⟩
    · cases started
  · cases started

/-- From one moment to another a prompt device takes turns, and stays
prompt. -/
def Goes (now next : VirtualDevice × Host) : Prop :=
  now.1.Prompt → Turns now next ∧ next.1.Prompt

theorem Goes.refl (now : VirtualDevice × Host) : Goes now now :=
  fun prompt => ⟨.refl, prompt⟩

theorem Goes.trans {now next last : VirtualDevice × Host}
    (first : Goes now next) (second : Goes next last) : Goes now last := by
  intro prompt
  obtain ⟨turns, prompt'⟩ := first prompt
  obtain ⟨turns', prompt''⟩ := second prompt'
  exact ⟨turns.trans turns', prompt''⟩

theorem outside_goes (d : VirtualDevice) {h h' : Host}
    (same : h'.sent = h.sent) : Goes (d, h) (d, h') :=
  fun prompt => ⟨.single (.outside d same), prompt⟩

theorem feed_goes (data : Bytes) (d : VirtualDevice) (h : Host) :
    Goes (d, h) (d.feed data h) := by
  intro prompt
  have heard := Turn.heard d h data
  rw [hear] at heard
  rw [feed]
  generalize Inbox.feed d.inbox data = read at heard ⊢
  obtain ⟨request, inbox⟩ := read
  cases request with
  | none => exact ⟨.single heard, prompt.dispatch, prompt.off⟩
  | some request =>
      dsimp only at heard ⊢
      cases on : d.state.dispatches with
      | false =>
          simp only [on, Bool.false_eq_true, if_false] at heard ⊢
          exact ⟨.single heard, prompt.dispatch, prompt.off⟩
      | true =>
          simp only [on, if_true, Dispatch.accept_eq] at heard ⊢
          split
          · next idle =>
              have taken := Turn.taken
                { d with inbox, dispatch := d.dispatch.enqueue request } h on idle
              exact ⟨.tail (.single heard) taken,
                prompt_of_dispatching on (Dispatch.serve_prompt _ h _ _ _)⟩
          · next busy =>
              have idle : d.dispatch.activity.isIdle = false := by
                simpa using busy
              exact ⟨.single heard, prompt_of_dispatching on
                (Dispatch.prompt_of_busy idle prompt.dispatch.timed)⟩

theorem readOnce_goes (d : VirtualDevice) (h : Host) :
    Goes (d, h) (d.readOnce h) := by
  obtain ⟨waiting, fault, same⟩ := d.channel.read_eq d.bufferSize h
  have outside := @outside_goes d h { h with waiting, readFault := fault } rfl
  rw [← same] at outside
  rw [readOnce]
  split
  · next data h' read =>
      rw [read] at outside
      split
      · exact outside
      · exact outside.trans (feed_goes data d h')
  · next h' _ read =>
      rw [read] at outside
      exact outside

theorem readAll_goes (reads : Nat) (d : VirtualDevice) (h : Host) :
    Goes (d, h) (readAll reads d h) := by
  induction reads generalizing d h with
  | zero => exact .refl _
  | succ reads ih =>
      rw [readAll]
      split
      · exact .refl _
      · dsimp only
        split
        · exact (readOnce_goes d h).trans (ih _ _)
        · exact readOnce_goes d h

theorem shutDown_goes (d : VirtualDevice) (h : Host) :
    Goes (d, h) (d.shutDown h) :=
  fun _ => ⟨.single (.shut d h), ⟨fun _ => rfl, trivial⟩, fun _ => rfl⟩

theorem settle_goes (d : VirtualDevice) (h : Host) :
    Goes (d, h) (d.settle h) := by
  rw [settle]
  split
  · split
    · exact shutDown_goes d h
    · exact .refl _
  · exact .refl _

theorem drain_goes (d : VirtualDevice) (h : Host) :
    Goes (d, h) (d.drain h) := by
  rw [drain]
  split
  · exact .refl _
  · exact .refl _
  · exact shutDown_goes d h
  · next running =>
      split
      · exact shutDown_goes d h
      · next time _ =>
          refine Goes.trans ?_ (settle_goes _ h)
          intro prompt
          have on : d.state.dispatches = true := by rw [running]; rfl
          exact ⟨.single (.draining d h on _), prompt.dispatch, nofun⟩

theorem ring_goes {d : VirtualDevice} {h : Host} {time : Nat} {alarm : Alarm}
    (due : d.alarm? = some (time, alarm)) : Goes (d, h) (d.ring alarm h) := by
  cases alarm with
  | drain => exact shutDown_goes d h
  | dispatch =>
      refine Goes.trans ?_ (settle_goes _ _)
      intro prompt
      have on : d.state.dispatches = true := by
        by_contra off
        rw [alarm?, if_neg off] at due
        split at due
        · next idle _ => cases idle
        · next idle _ => cases idle
        · cases due
        · cases due
      exact ⟨.single (.rung d h on),
        prompt_of_dispatching on (Dispatch.ring_prompt d.channel h prompt.dispatch)⟩

theorem run_goes (till : Option Nat) (d : VirtualDevice) (h : Host) :
    Goes (d, h) (run till d h) := by
  fun_induction run till d h with
  | case1 d h _ => exact .refl _
  | case2 d h time alarm _ now late => exact .refl _
  | case3 d h time alarm due now _ next ih =>
      have outside := @outside_goes d h { h with now } rfl
      exact (outside.trans (ring_goes due)).trans ih

theorem stop_goes (d : VirtualDevice) (h : Host) : Goes (d, h) (d.stop h) := by
  have drain := drain_goes d h
  rw [stop]
  split
  next d' h' drained =>
    rw [drained] at drain
    split
    · exact drain
    · exact drain.trans (run_goes none d' h')

theorem wake_goes (d : VirtualDevice) (h : Host) :
    Goes (d, h) (d.dispatched (d.dispatch.wake d.channel h)) := by
  intro prompt
  by_cases on : d.state.dispatches = true
  · exact ⟨.single (.woken d h on),
      prompt_of_dispatching on (Dispatch.wake_prompt d.channel h prompt.dispatch)⟩
  · have idle := prompt.off (by simpa using on)
    have still : d.dispatch.wake d.channel h = (d.dispatch, h) := by
      rw [Dispatch.wake]
      split
      · next t acts busy =>
          rw [busy] at idle
          cases idle
      · rfl
    rw [still]
    exact ⟨.refl, prompt⟩

theorem meet_goes (i : Incident) (d : VirtualDevice) (h : Host) :
    Goes (d, h) (d.meet i h) := by
  have outside := outside_goes d (h.sent_meet i)
  have once : Goes (d, h)
      (if d.isRunning then d.readOnce (h.meet i) else (d, h.meet i)) := by
    split
    · exact outside.trans (readOnce_goes d _)
    · exact outside
  cases i with
  | client data =>
      rw [meet]
      split
      · exact outside.trans (readAll_goes _ d _)
      · exact outside
  | hangUp => exact once
  | wake => exact once
  | readFault fault => exact once
  | drain n =>
      exact (outside.trans (wake_goes d _)).trans (settle_goes _ _)
  | advance span =>
      rw [meet]
      have first := run_goes (some (Clock.after h.now span)) d h
      split
      next d' h' ran =>
        rw [ran] at first
        have later :=
          @outside_goes d' h' { h' with now := Clock.after h.now span } rfl
        exact (first.trans later).trans (run_goes _ _ _)
  | room n => exact outside
  | fault call fault => exact outside
  | signal => exact outside

inductive Happening where
  | incident (i : Incident)
  | feed (data : Bytes)
  | drain
  | stop

def happen (now : VirtualDevice × Host) :
    Happening → VirtualDevice × Host
  | .incident i => now.1.meet i now.2
  | .feed data => now.1.feed data now.2
  | .drain => now.1.drain now.2
  | .stop => now.1.stop now.2

theorem happen_goes (now : VirtualDevice × Host) (happening : Happening) :
    Goes now (happen now happening) := by
  cases happening with
  | incident i => exact meet_goes i now.1 now.2
  | feed data => exact feed_goes data now.1 now.2
  | drain => exact drain_goes now.1 now.2
  | stop => exact stop_goes now.1 now.2

theorem foldl_goes (happenings : List Happening) (now : VirtualDevice × Host) :
    Goes now (happenings.foldl happen now) := by
  induction happenings generalizing now with
  | nil => exact .refl now
  | cons happening rest ih => exact (happen_goes now happening).trans (ih _)

/-! When all has happened that happens by itself. -/

theorem alarm?_run (d : VirtualDevice) (h : Host) :
    (run none d h).1.alarm? = none := by
  fun_induction run none d h with
  | case1 d h quiet => exact quiet
  | case2 d h time alarm _ now late => cases late
  | case3 d h time alarm due now _ next ih => exact ih

theorem alarm?_activity (on : d.state.dispatches = true) (quiet : d.alarm? = none) :
    d.dispatch.activity.alarm? = none := by
  cases due : d.dispatch.activity.alarm? with
  | none => rfl
  | some time =>
      rw [alarm?, if_pos on, due] at quiet
      split at quiet
      · split at quiet
        · cases quiet
        · cases quiet
      · cases quiet
      · next waits _ => cases waits
      · next waits _ => cases waits

/-- No answer is left to be given, unless the device has stopped or an answer
waits for ever because it is meant to. -/
def Served (d : VirtualDevice) : Prop :=
  d.state = .stopped ∨ d.dispatch.isFinished = true ∨
    ∃ acts, d.dispatch.activity = .sleeping none acts

theorem Prompt.served (prompt : d.Prompt) (quiet : d.alarm? = none) :
    d.Served := by
  obtain ⟨idle, timed⟩ := prompt.dispatch
  have busy (other : d.dispatch.activity.isIdle = false) :
      d.dispatch.activity.alarm? = none := by
    refine alarm?_activity ?_ quiet
    by_contra off
    rw [prompt.off (by simpa using off)] at other
    cases other
  cases activity : d.dispatch.activity with
  | idle =>
      rw [activity] at idle
      refine .inr (.inl ?_)
      rw [Dispatch.isFinished, activity, idle rfl]
      rfl
  | sleeping till acts =>
      rw [activity] at busy
      obtain rfl : till = none := busy rfl
      exact .inr (.inr ⟨acts, activity⟩)
  | sending t acts =>
      rw [activity] at busy timed
      have deadline : t.deadline = none := busy rfl
      have limited := timed.2
      rw [deadline] at limited
      cases limited

/-- However reads, the dispatch and all else come together, a device that has
started hands its engine the requests in the order in which they came in, each
of them once and none before the one before it is over, and their answers do
not mix. As it runs, no request is left waiting while the dispatch is idle, and
in time all of them are served. -/
theorem serves_in_order {d d₀ : VirtualDevice} {h h₀ : Host}
    (started : d.start h = (.ok (), d₀, h₀)) :
    (∀ now, Turns (d₀, h₀) now →
      ∃ s : Story, s.Tells d₀.dispatch h₀ now.1.dispatch now.2 ∧
        s.events.filterMap DispatchEvent.handed? <+:
          s.events.filterMap DispatchEvent.asked? ∧
        (now.1.state ≠ .stopped → s.Live now.1.dispatch)) ∧
      ∀ happenings : List Happening,
        let now := happenings.foldl happen (d₀, h₀)
        Turns (d₀, h₀) now ∧ now.1.Prompt ∧
          Turns now (now.1.run none now.2) ∧
          (now.1.run none now.2).1.Served := by
  constructor
  · intro now turns
    obtain ⟨s, tells, live⟩ := Turns.orderly turns (orderly_start started)
    refine ⟨s, tells, ?_, live⟩
    rw [tells.handed, tells.requests]
    exact List.prefix_append _ _
  · intro happenings now
    obtain ⟨turns, prompt⟩ :=
      foldl_goes happenings (d₀, h₀) (prompt_start started)
    obtain ⟨later, prompt'⟩ := run_goes none now.1 now.2 prompt
    exact ⟨turns, prompt, later, prompt'.served (alarm?_run now.1 now.2)⟩

/-- Three answers, of which the second cannot be written to its end. -/
def sloppy : Mappings := [
  { request := text "a", responses := [⟨[{ data := text "one" }], 1⟩] },
  { request := text "b"
    responses := [⟨[{ data := text "two" }, { data := [.lone 0] }], 1⟩] },
  { request := text "c", responses := [⟨[{ data := text "three" }], 1⟩] }]

def desk : VirtualDevice :=
  let rules := sloppy.map fun m => ⟨m, .literal m.request, 0⟩
  .of ⟨rules, { firmware := [] }, .ofList []⟩ none 0 0.1

def narrow : Host := { room := some 2 }

/-- Two requests come while the answer to the first waits for room. -/
def crowd : List Happening := [.incident (.client [0x61]), .feed [0x62],
  .feed [0x63], .incident (.drain 20)]

def begun : VirtualDevice × Host := (desk.start narrow).2

theorem crowd_in_order :
    desk.start narrow = (.ok (), begun.1, begun.2) ∧
      Turns begun (crowd.foldl happen begun) ∧
      (∃ s : Story, s.Tells begun.1.dispatch begun.2
        (crowd.foldl happen begun).1.dispatch (crowd.foldl happen begun).2) ∧
      ((crowd.foldl happen begun).1.run none
        (crowd.foldl happen begun).2).1.Served ∧
      (crowd.foldl happen begun).2.sent.map Prod.snd = [[0x6F, 0x6E], [0x65],
        [0x74, 0x77, 0x6F], [0x74, 0x68, 0x72, 0x65, 0x65]] := by
  have started : desk.start narrow = (.ok (), begun.1, begun.2) := rfl
  obtain ⟨stories, runs⟩ := serves_in_order started
  obtain ⟨turns, _, _, served⟩ := runs crowd
  obtain ⟨s, tells, _⟩ := stories _ turns
  exact ⟨started, turns, ⟨s, tells⟩, served, by decide +kernel⟩

end VirtualDevice

end Breadboard
