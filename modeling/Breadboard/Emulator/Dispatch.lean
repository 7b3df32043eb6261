import Breadboard.Response.Engine
import Breadboard.Terminal.Transfer

/-! The dispatch of requests. Requests wait in a queue and are answered one after another: the next
is taken when the answer to the last has ended, however it ended. -/

namespace Breadboard

/-- What the dispatch is busy with. The acts are those that are left of the answer. -/
inductive Activity where
  | idle
  | sleeping (till : Option Nat) (acts : List Act)
  | sending (transfer : Transfer) (acts : List Act)

/-- What happened to requests; of the writes there had been, `sent` is the number. -/
inductive DispatchEvent where
  | queued (request : Text)
  | taken (request : Text) (sent : Nat)
  | ended (sent : Nat)

structure Dispatch where
  engine : Engine
  queue : List Text := []
  activity : Activity := .idle
  events : List DispatchEvent := []

namespace Activity

def isIdle : Activity → Bool
  | idle => true
  | _ => false

def alarm? : Activity → Option Nat
  | idle => none
  | sleeping till _ => till
  | sending t _ => t.deadline

def size : Activity → Nat
  | idle => 0
  | sleeping _ acts => acts.length + 1
  | sending _ acts => acts.length + 1

end Activity

namespace Dispatch

/-- Carries out acts until one has to be waited for, or they end: with the last or in a failure. -/
def carryOut (c : Channel) : List Act → Dice → Host → Activity × Dice × Host
  | [], dice, h => (.idle, dice, h)
  | .wait delay jitter :: acts, dice, h =>
      let (seconds, dice) := Act.waitTime delay jitter dice
      match Clock.ticks? seconds with
      | some 0 => carryOut c acts dice h
      | time => (.sleeping (time.map (Clock.after h.now)) acts, dice, h)
  | .pause seconds :: acts, dice, h =>
      match Clock.ticks? seconds with
      | some 0 => carryOut c acts dice h
      | time => (.sleeping (time.map (Clock.after h.now)) acts, dice, h)
  | .write data :: acts, dice, h =>
      match Transfer.start c data Transfer.stallLimit h with
      | (.ended taken, h) =>
          if taken < data.length then (.idle, dice, h) else carryOut c acts dice h
      | (.waiting t, h) => (.sending t acts, dice, h)
      | (.failed _, h) => (.idle, dice, h)
  | .fail _ :: _, dice, h => (.idle, dice, h)

theorem size_carryOut (c : Channel) (acts : List Act) (dice : Dice) (h : Host) :
    (carryOut c acts dice h).1.size ≤ acts.length := by
  fun_induction carryOut c acts dice h <;> simp_all [Activity.size] <;> omega

def serve (c : Channel) : (queue : List Text) → Engine → List DispatchEvent → Host →
    Dispatch × Host
  | [], engine, events, h => ({ engine, events }, h)
  | request :: queue, engine, events, h =>
      let events := events ++ [.taken request h.sent.length]
      let (plan, engine) := engine.answer request
      match carryOut c (plan.getD []) engine.dice h with
      | (.idle, dice, h) =>
          serve c queue { engine with dice } (events ++ [.ended h.sent.length]) h
      | (activity, dice, h) => ({ engine := { engine with dice }, queue, activity, events }, h)

theorem queue_serve (c : Channel) (queue : List Text) (engine : Engine)
    (events : List DispatchEvent) (h : Host) :
    (serve c queue engine events h).1.queue.length < queue.length ∨
      (serve c queue engine events h).1.queue.length = queue.length ∧
        (serve c queue engine events h).1.activity.size = 0 := by
  induction queue generalizing engine events h with
  | nil => exact .inr ⟨rfl, rfl⟩
  | cons request queue ih =>
      left
      have bound (engine events h) :
          (serve c queue engine events h).1.queue.length ≤ queue.length := by
        rcases ih engine events h with lt | ⟨eq, _⟩ <;> omega
      simp only [serve, List.length_cons]
      split
      · exact Nat.lt_succ_of_le (bound _ _ _)
      · exact Nat.lt_succ_self _

def next (c : Channel) (d : Dispatch) (h : Host) : Dispatch × Host :=
  serve c d.queue d.engine (d.events ++ [.ended h.sent.length]) h

def resume (c : Channel) (acts : List Act) (d : Dispatch) (h : Host) : Dispatch × Host :=
  match carryOut c acts d.engine.dice h with
  | (.idle, dice, h) => next c { d with engine := { d.engine with dice } } h
  | (activity, dice, h) => ({ d with engine := { d.engine with dice }, activity }, h)

/-- A request comes in; an idle dispatch takes it at once. -/
def accept (c : Channel) (request : Text) (d : Dispatch) (h : Host) : Dispatch × Host :=
  let events := d.events ++ [.queued request]
  match d.activity with
  | .idle => serve c (d.queue ++ [request]) d.engine events h
  | _ => ({ d with queue := d.queue ++ [request], events }, h)

def ring (c : Channel) (d : Dispatch) (h : Host) : Dispatch × Host :=
  match d.activity with
  | .idle => (d, h)
  | .sleeping _ acts => d.resume c acts h
  | .sending _ _ => d.next c h

def wake (c : Channel) (d : Dispatch) (h : Host) : Dispatch × Host :=
  match d.activity with
  | .sending t acts =>
      match t.wake c h with
      | (.ended taken, h) => if taken < t.size then d.next c h else d.resume c acts h
      | (.waiting t, h) => ({ d with activity := .sending t acts }, h)
      | (.failed _, h) => d.next c h
  | _ => (d, h)

def isFinished (d : Dispatch) : Bool := d.activity.isIdle && d.queue.isEmpty

def Less (d e : Dispatch) : Prop :=
  d.queue.length < e.queue.length ∨
    d.queue.length = e.queue.length ∧ d.activity.size < e.activity.size

theorem less_next (c : Channel) (d : Dispatch) (h : Host) (busy : 0 < d.activity.size) :
    Less (d.next c h).1 d := by
  rcases queue_serve c d.queue d.engine (d.events ++ [.ended h.sent.length]) h with lt | ⟨eq, idle⟩
  · exact .inl lt
  · exact .inr ⟨eq, by rw [next, idle]; exact busy⟩

theorem less_resume (c : Channel) (acts : List Act) (d : Dispatch) (h : Host)
    (size : acts.length < d.activity.size) : Less (d.resume c acts h).1 d := by
  have bound := size_carryOut c acts d.engine.dice h
  simp only [resume]
  split
  · next dice h' e =>
      exact less_next c { d with engine := { d.engine with dice } } h' (Nat.zero_lt_of_lt size)
  · next activity dice h' _ e =>
      rw [e] at bound
      exact .inr ⟨rfl, by show activity.size < _; simp only at bound; omega⟩

theorem less_ring (c : Channel) (d : Dispatch) (h : Host) (busy : d.activity.isIdle = false) :
    Less (d.ring c h).1 d := by
  unfold ring
  split
  · next e => simp [e, Activity.isIdle] at busy
  · next till acts e => exact less_resume c acts d h (by rw [e]; simp [Activity.size])
  · next t acts e => exact less_next c d h (by rw [e]; simp [Activity.size])

end Dispatch

end Breadboard
