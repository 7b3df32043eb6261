import Breadboard.Emulator.Device
import Breadboard.Proofs.Response.Delivery
import Breadboard.Proofs.Terminal.Transfer

/-! The order of service. Requests are answered in the order in which they came
in, each of them once, and an answer begins when the one before it is over,
whatever became of that. The story of a dispatch tells which writes belong to
which request. -/

namespace Breadboard

/-! What is left of an answer. -/

def Act.due (acts : List Act) : Bytes := acts.flatMap Act.data

namespace Activity

def due : Activity → Bytes
  | idle => []
  | sleeping _ acts => Act.due acts
  | sending t acts => t.rest ++ Act.due acts

def Patient : Activity → Prop
  | sending t _ => t.Patient
  | _ => True

theorem isIdle_eq_false {a : Activity} (busy : a = idle → False) :
    a.isIdle = false := by
  cases a with
  | idle => exact (busy rfl).elim
  | sleeping till acts => rfl
  | sending t acts => rfl

/-- Of the bytes of an answer some have been taken. If the answer is not over,
the activity has the others left. -/
structure Leaves (a : Activity) (data taken : Bytes) : Prop where
  begun : taken <+: data
  rest : a.isIdle = false → taken ++ a.due = data
  patient : a.Patient

theorem Leaves.over {data taken : Bytes} (begun : taken <+: data) :
    idle.Leaves data taken where
  begun := begun
  rest := nofun
  patient := trivial

theorem Leaves.busy {a : Activity} {data taken : Bytes}
    (whole : taken ++ a.due = data) (patient : a.Patient) :
    a.Leaves data taken where
  begun := ⟨a.due, whole⟩
  rest := fun _ => whole
  patient := patient

theorem Leaves.append {a : Activity} {data taken : Bytes}
    (leaves : a.Leaves data taken) (front : Bytes) :
    a.Leaves (front ++ data) (front ++ taken) where
  begun := (List.prefix_append_right_inj front).2 leaves.begun
  rest := by
    intro busy
    rw [List.append_assoc, leaves.rest busy]
  patient := leaves.patient

end Activity

namespace Dispatch

theorem carryOut_takes (c : Channel) (acts : List Act) (dice : Dice)
    (h : Host) :
    ∃ taken, h.Takes taken (carryOut c acts dice h).2.2 ∧
      (carryOut c acts dice h).1.Leaves (Act.due acts) taken := by
  induction acts generalizing dice h with
  | nil => exact ⟨[], .nothing h, .over List.nil_prefix⟩
  | cons act acts ih =>
      cases act with
      | wait delay jitter =>
          simp only [carryOut]
          split
          · exact ih _ h
          · exact ⟨[], .nothing h, .busy rfl trivial⟩
      | pause seconds =>
          rw [carryOut]
          split
          · exact ih dice h
          · exact ⟨[], .nothing h, .busy rfl trivial⟩
      | write data =>
          obtain ⟨taken, left, rfl, takes, leaves⟩ :=
            Transfer.start_takes c data Transfer.stallLimit_ne h
          rw [carryOut]
          split
          · next n h' started =>
              rw [started] at takes leaves
              obtain ⟨rfl, rfl⟩ := leaves
              rw [List.append_nil, if_neg (Nat.lt_irrefl _)]
              obtain ⟨more, later, rest⟩ := ih dice h'
              exact ⟨taken ++ more, takes.trans later, rest.append taken⟩
          · next t h' started =>
              rw [started] at takes leaves
              obtain ⟨rfl, _, patience⟩ := leaves
              refine ⟨taken, takes, .busy ?_ ?_⟩
              · exact (List.append_assoc ..).symm
              · intro none
                exact Transfer.stallLimit_ne (patience.symm.trans none)
          · next fault h' started =>
              rw [started] at takes
              refine ⟨taken, takes, .over ?_⟩
              exact ⟨left ++ Act.due acts, (List.append_assoc ..).symm⟩
      | fail fault => exact ⟨[], .nothing h, .over List.nil_prefix⟩

def enqueue (request : Text) (d : Dispatch) : Dispatch :=
  { d with
    queue := d.queue ++ [request]
    events := d.events ++ [.queued request] }

theorem serve_cons (c : Channel) (request : Text) (queue : List Text)
    (engine : Engine) (events : List DispatchEvent) (h : Host) :
    serve c (request :: queue) engine events h =
      resume c ((engine.answer request).1.getD [])
        { engine := (engine.answer request).2
          queue
          events := events ++ [.taken request h.sent.length] } h := by
  rw [serve, resume]
  rfl

end Dispatch

namespace DispatchEvent

def asked? : DispatchEvent → Option Text
  | queued request => some request
  | _ => none

def handed? : DispatchEvent → Option Text
  | taken request _ => some request
  | _ => none

def isMark : DispatchEvent → Bool
  | queued _ => false
  | _ => true

end DispatchEvent

structure Service where
  request : Text
  engine : Engine
  writes : List (Nat × Bytes) := []

namespace Service

def plan (x : Service) : List Act := (x.engine.answer x.request).1.getD []

def written (services : List Service) : List (Nat × Bytes) :=
  services.flatMap (·.writes)

/-- Each service is by the engine that the one before it has left, whose dice
may have been thrown in the meantime. -/
def Chain : Engine → List Service → Engine → Prop
  | first, [], last => last = first
  | first, x :: rest, last => x.engine = first ∧
      ∃ dice, Chain { (x.engine.answer x.request).2 with dice } rest last

theorem chain_concat {first last : Engine} {services : List Service}
    {x : Service} :
    Chain first (services ++ [x]) last ↔ Chain first services x.engine ∧
      ∃ dice, last = { (x.engine.answer x.request).2 with dice } := by
  induction services generalizing first with
  | nil => exact Iff.rfl
  | cons y rest ih =>
      rw [List.cons_append, Chain, Chain]
      simp only [ih]
      constructor
      · rintro ⟨same, dice, chain, thrown⟩
        exact ⟨⟨same, dice, chain⟩, thrown⟩
      · rintro ⟨⟨same, dice, chain⟩, thrown⟩
        exact ⟨same, dice, chain, thrown⟩

/-- The events of services that are over, the first of which began when there
had been so many writes. -/
def marks (sent : Nat) : List Service → List DispatchEvent
  | [] => []
  | x :: rest => .taken x.request sent :: .ended (sent + x.writes.length) ::
      marks (sent + x.writes.length) rest

theorem written_concat (services : List Service) (x : Service) :
    written (services ++ [x]) = written services ++ x.writes := by
  simp [written]

theorem marks_concat (sent : Nat) (services : List Service) (x : Service) :
    marks sent (services ++ [x]) = marks sent services ++
      [.taken x.request (sent + (written services).length),
        .ended (sent + (written (services ++ [x])).length)] := by
  induction services generalizing sent with
  | nil => simp [marks, written]
  | cons y rest ih => simp [marks, written, ih, Nat.add_assoc]

theorem handed_marks (sent : Nat) (services : List Service) :
    (marks sent services).filterMap DispatchEvent.handed? =
      services.map (·.request) := by
  induction services generalizing sent with
  | nil => rfl
  | cons x rest ih =>
      rw [List.map_cons, ← ih]
      rfl

end Service

/-- What has happened since a dispatch began: the services that are over, the
one that is not, and the requests that have not been taken. -/
structure Story where
  events : List DispatchEvent := []
  done : List Service := []
  current : Option Service := none
  left : List Text := []

namespace Story

def services (s : Story) : List Service := s.done ++ s.current.toList

/-- Requests are taken in the order in which they came in, none of them twice
and none left out; a service begins when the one before is over; and what is
written belongs to the services one after another, to each a beginning of its
answer. -/
structure Tells (s : Story) (d₀ : Dispatch) (h₀ : Host) (d : Dispatch)
    (h : Host) : Prop where
  events : d.events = d₀.events ++ s.events
  requests : s.events.filterMap DispatchEvent.asked? =
    s.services.map (·.request) ++ s.left
  marks : s.events.filter DispatchEvent.isMark =
    Service.marks h₀.sent.length s.done ++ s.current.toList.map fun x =>
      .taken x.request (h₀.sent.length + (Service.written s.done).length)
  sent : h.sent = h₀.sent ++ Service.written s.services
  own : ∀ x ∈ s.services, Host.said x.writes <+: Act.due x.plan
  engines : Service.Chain d₀.engine s.services d.engine

structure Live (s : Story) (d : Dispatch) : Prop where
  left : s.left = d.queue
  idle : d.activity.isIdle = s.current.isNone
  rest : ∀ x ∈ s.current,
    d.activity.Leaves (Act.due x.plan) (Host.said x.writes)

theorem services_none (events : List DispatchEvent) (done : List Service)
    (left : List Text) : services ⟨events, done, none, left⟩ = done :=
  List.append_nil done

theorem services_some (events : List DispatchEvent) (done : List Service)
    (x : Service) (left : List Text) :
    services ⟨events, done, some x, left⟩ = done ++ [x] := rfl

variable {s : Story} {d₀ d : Dispatch} {h₀ h h' : Host}
variable {events : List DispatchEvent} {done : List Service} {x : Service}
variable {left : List Text}

theorem Tells.sent_length (tells : s.Tells d₀ h₀ d h) :
    h.sent.length = h₀.sent.length + (Service.written s.services).length := by
  rw [tells.sent, List.length_append]

theorem Tells.handed (tells : s.Tells d₀ h₀ d h) :
    s.events.filterMap DispatchEvent.handed? = s.services.map (·.request) := by
  have marked : s.events.filterMap DispatchEvent.handed? =
      (s.events.filter DispatchEvent.isMark).filterMap
        DispatchEvent.handed? := by
    rw [List.filterMap_filter]
    congr 1
    funext event
    cases event with
    | queued request => rfl
    | taken request sent => rfl
    | ended sent => rfl
  rw [marked, tells.marks, List.filterMap_append, Service.handed_marks,
    services, List.map_append]
  cases s.current with
  | none => rfl
  | some x => rfl

/-! What can happen. -/

theorem tells_begin (d : Dispatch) (h : Host) : Tells {} d h d h where
  events := (List.append_nil _).symm
  requests := rfl
  marks := rfl
  sent := (List.append_nil _).symm
  own := nofun
  engines := rfl

theorem Tells.queued (tells : s.Tells d₀ h₀ d h) (request : Text) :
    Tells { s with
        events := s.events ++ [.queued request]
        left := s.left ++ [request] }
      d₀ h₀ (d.enqueue request) h :=
  { tells with
    events := by
      rw [Dispatch.enqueue, tells.events, List.append_assoc]
    requests := by
      rw [List.filterMap_append, tells.requests, List.append_assoc]
      rfl
    marks := by
      rw [List.filter_append, tells.marks]
      exact List.append_nil _ }

theorem Tells.taken {request : Text}
    (tells : Tells ⟨events, done, none, request :: left⟩ d₀ h₀ d h) :
    Tells ⟨events ++ [.taken request h.sent.length], done,
        some ⟨request, d.engine, []⟩, left⟩ d₀ h₀
      { d with
        engine := (d.engine.answer request).2
        events := d.events ++ [.taken request h.sent.length] } h where
  events := by rw [tells.events, List.append_assoc]
  requests := by
    rw [List.filterMap_append, tells.requests, services_none, services_some,
      List.map_append, List.append_assoc, List.append_assoc]
    exact congrArg (_ ++ ·) (List.append_nil _)
  marks := by
    rw [List.filter_append, tells.marks, tells.sent_length, services_none]
    exact congrArg (· ++ _) (List.append_nil _)
  sent := by
    rw [tells.sent, services_none, services_some, Service.written_concat,
      List.append_nil]
  own := by
    intro x member
    rcases List.mem_append.1 member with earlier | new
    · exact tells.own x (List.mem_append_left _ earlier)
    · obtain rfl := List.mem_singleton.1 new
      exact List.nil_prefix
  engines := by
    have chain := tells.engines
    rw [services_none] at chain
    exact Service.chain_concat.2 ⟨chain, _, rfl⟩

theorem Tells.wrote (tells : Tells ⟨events, done, some x, left⟩ d₀ h₀ d h)
    {writes : List (Nat × Bytes)} (sent : h'.sent = h.sent ++ writes)
    (begun : Host.said (x.writes ++ writes) <+: Act.due x.plan) (dice : Dice) :
    Tells ⟨events, done, some { x with writes := x.writes ++ writes }, left⟩
      d₀ h₀ { d with engine := { d.engine with dice } } h' where
  events := tells.events
  requests := by
    rw [tells.requests, services_some, services_some, List.map_append,
      List.map_append]
    rfl
  marks := tells.marks
  sent := by
    rw [sent, tells.sent, services_some, services_some, Service.written_concat,
      Service.written_concat, List.append_assoc, List.append_assoc]
  own := by
    intro y member
    rcases List.mem_append.1 member with earlier | last
    · exact tells.own y (List.mem_append_left _ earlier)
    · obtain rfl := List.mem_singleton.1 last
      exact begun
  engines := by
    obtain ⟨chain, _, thrown⟩ := Service.chain_concat.1 tells.engines
    refine Service.chain_concat.2 ⟨chain, dice, ?_⟩
    rw [thrown]

theorem Tells.ended (tells : Tells ⟨events, done, some x, left⟩ d₀ h₀ d h) :
    Tells ⟨events ++ [.ended h.sent.length], done ++ [x], none, left⟩ d₀ h₀
      { d with events := d.events ++ [.ended h.sent.length] } h where
  events := by rw [tells.events, List.append_assoc]
  requests := by
    rw [List.filterMap_append, tells.requests, services_none]
    exact List.append_nil _
  marks := by
    rw [List.filter_append, tells.marks, tells.sent_length,
      Service.marks_concat, List.append_assoc]
    exact (List.append_nil _).symm
  sent := by rw [tells.sent, services_none, services_some]
  own := by
    rw [services_none]
    exact tells.own
  engines := by
    rw [services_none]
    exact tells.engines

theorem Tells.carried (c : Channel) {acts : List Act}
    (tells : Tells ⟨events, done, some x, left⟩ d₀ h₀ d h)
    (rest : Host.said x.writes ++ Act.due acts = Act.due x.plan) :
    let carried := Dispatch.carryOut c acts d.engine.dice h
    ∃ x', Tells ⟨events, done, some x', left⟩ d₀ h₀
        { d with engine := { d.engine with dice := carried.2.1 } }
        carried.2.2 ∧
      carried.1.Leaves (Act.due x'.plan) (Host.said x'.writes) := by
  intro carried
  obtain ⟨_, takes, leaves⟩ := Dispatch.carryOut_takes c acts d.engine.dice h
  obtain ⟨writes, sent, rfl⟩ := takes.sent
  have whole := leaves.append (Host.said x.writes)
  rw [rest, ← Host.said_append] at whole
  exact ⟨{ x with writes := x.writes ++ writes },
    tells.wrote sent whole.begun carried.2.1, whole⟩

end Story

/-! The dispatch, from one wait to the next. -/

namespace Dispatch

open Story

def Follows (d₀ : Dispatch) (h₀ : Host) (now : Dispatch × Host) : Prop :=
  ∃ s : Story, s.Tells d₀ h₀ now.1 now.2 ∧ s.Live now.1

variable {d₀ d : Dispatch} {h₀ h : Host} (c : Channel)
variable {events : List DispatchEvent} {done : List Service} {x : Service}
variable {left : List Text}

theorem resume_follows_of {acts : List Act}
    (serves : ∀ events done d h, Tells ⟨events, done, none, left⟩ d₀ h₀ d h →
      Follows d₀ h₀ (serve c left d.engine d.events h))
    (tells : Tells ⟨events, done, some x, left⟩ d₀ h₀ d h)
    (rest : Host.said x.writes ++ Act.due acts = Act.due x.plan)
    (queue : left = d.queue) : Follows d₀ h₀ (resume c acts d h) := by
  obtain ⟨x', tells', leaves⟩ := tells.carried c rest
  rw [resume]
  split
  · next dice h' carried =>
      rw [carried] at tells'
      rw [next, ← queue]
      exact serves _ _ _ _ tells'.ended
  · next activity dice h' busy carried =>
      rw [carried] at tells' leaves
      refine ⟨_, { tells' with }, ?_⟩
      exact {
        left := queue
        idle := Activity.isIdle_eq_false busy
        rest := by
          intro y member
          obtain rfl := Option.mem_some.1 member
          exact leaves }

theorem serve_follows {queue : List Text}
    (tells : Tells ⟨events, done, none, queue⟩ d₀ h₀ d h) :
    Follows d₀ h₀ (serve c queue d.engine d.events h) := by
  induction queue generalizing events done d h with
  | nil =>
      exact ⟨_, { tells with }, {
        left := rfl
        idle := rfl
        rest := nofun }⟩
  | cons request queue ih =>
      rw [serve_cons]
      refine resume_follows_of c (fun _ _ _ _ told => ih told)
        { tells.taken with } ?_ rfl
      exact List.nil_append _

theorem resume_follows {acts : List Act}
    (tells : Tells ⟨events, done, some x, left⟩ d₀ h₀ d h)
    (rest : Host.said x.writes ++ Act.due acts = Act.due x.plan)
    (queue : left = d.queue) : Follows d₀ h₀ (resume c acts d h) :=
  resume_follows_of c (fun _ _ _ _ told => serve_follows c told) tells rest
    queue

theorem next_follows (tells : Tells ⟨events, done, some x, left⟩ d₀ h₀ d h)
    (queue : left = d.queue) : Follows d₀ h₀ (next c d h) := by
  rw [next, ← queue]
  exact serve_follows c tells.ended

theorem enqueue_follows (follows : Follows d₀ h₀ (d, h)) (request : Text) :
    Follows d₀ h₀ (d.enqueue request, h) := by
  obtain ⟨s, tells, live⟩ := follows
  exact ⟨_, tells.queued request,
    { live with left := congrArg (· ++ [request]) live.left }⟩

theorem turn_follows (follows : Follows d₀ h₀ (d, h))
    (idle : d.activity.isIdle = true) :
    Follows d₀ h₀ (serve c d.queue d.engine d.events h) := by
  obtain ⟨⟨events, done, current, left⟩, tells, live⟩ := follows
  have none := live.idle
  rw [idle] at none
  obtain rfl : current = .none := Option.isNone_iff_eq_none.1 none.symm
  obtain rfl : left = d.queue := live.left
  exact serve_follows c tells

/-- A dispatch that is busy is so with a service. -/
theorem exists_current (follows : Follows d₀ h₀ (d, h))
    (busy : d.activity.isIdle = false) :
    ∃ events done x, Tells ⟨events, done, some x, d.queue⟩ d₀ h₀ d h ∧
      d.activity.Leaves (Act.due x.plan) (Host.said x.writes) := by
  obtain ⟨⟨events, done, current, left⟩, tells, live⟩ := follows
  obtain rfl : left = d.queue := live.left
  cases current with
  | none =>
      have idle := live.idle
      rw [busy] at idle
      cases idle
  | some x => exact ⟨events, done, x, tells, live.rest x rfl⟩

theorem ring_follows (follows : Follows d₀ h₀ (d, h)) :
    Follows d₀ h₀ (ring c d h) := by
  rw [ring]
  split
  · exact follows
  · next till acts activity =>
      obtain ⟨_, _, x, tells, leaves⟩ :=
        exists_current follows (by rw [activity]; rfl)
      rw [activity] at leaves
      exact resume_follows c tells (leaves.rest rfl) rfl
  · next t acts activity =>
      obtain ⟨_, _, x, tells, _⟩ :=
        exists_current follows (by rw [activity]; rfl)
      exact next_follows c tells rfl

theorem wake_follows (follows : Follows d₀ h₀ (d, h)) :
    Follows d₀ h₀ (wake c d h) := by
  rw [wake]
  split
  · next t acts activity =>
      obtain ⟨events, done, x, tells, leaves⟩ :=
        exists_current follows (by rw [activity]; rfl)
      rw [activity] at leaves
      obtain ⟨_, left, whole, takes, progress⟩ :=
        Transfer.wake_takes c leaves.patient h
      obtain ⟨writes, sent, rfl⟩ := takes.sent
      have rest : Host.said (x.writes ++ writes) ++ (left ++ Act.due acts) =
          Act.due x.plan := by
        rw [Host.said_append, List.append_assoc, ← List.append_assoc _ left,
          whole]
        exact leaves.rest rfl
      have tells' := tells.wrote sent ⟨_, rest⟩ d.engine.dice
      split
      · next n h' woken =>
          rw [woken] at tells' progress
          obtain ⟨rfl, rfl⟩ := progress
          rw [if_neg (Nat.lt_irrefl _)]
          exact resume_follows c tells' rest rfl
      · next t' h' woken =>
          rw [woken] at tells' progress
          obtain ⟨rfl, _, patience⟩ := progress
          refine ⟨_, { tells' with }, ?_⟩
          exact {
            left := rfl
            idle := rfl
            rest := by
              intro y member
              obtain rfl := Option.mem_some.1 member
              exact .busy rest fun none =>
                leaves.patient (patience.symm.trans none) }
      · next fault h' woken =>
          rw [woken] at tells'
          exact next_follows c tells' rfl
  · exact follows

end Dispatch

end Breadboard
