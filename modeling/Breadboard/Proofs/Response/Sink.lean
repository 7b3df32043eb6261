import Breadboard.Proofs.Response.Delivery

/-! Channels that take any part of what they are offered, and what becomes of a delivery on them. -/

namespace Breadboard

namespace Outlet

/-- A channel by what it says it takes of a write when others came before; it need not say. -/
structure Sink where
  takes : (earlier : List Bytes) → (data : Bytes) → Option Nat

namespace Sink

def accepted (s : Sink) (earlier : List Bytes) (data : Bytes) : Nat :=
  (s.takes earlier data).getD data.length

def Short (s : Sink) (earlier : List Bytes) (data : Bytes) : Prop :=
  s.accepted earlier data < data.length

instance (s : Sink) (earlier : List Bytes) (data : Bytes) : Decidable (s.Short earlier data) :=
  inferInstanceAs (Decidable (_ < _))

def taken (s : Sink) : (earlier offered : List Bytes) → Bytes
  | _, [] => []
  | earlier, data :: rest =>
      data.take (s.accepted earlier data) ++ taken s (earlier ++ [data]) rest

def Unbroken (s : Sink) (earlier offered : List Bytes) : Prop :=
  ∀ before data, before ++ [data] <+: offered → ¬ s.Short (earlier ++ before) data

def perform (s : Sink) (earlier : List Bytes) (d : Dice) :
    List Act → List Event × Dice × Option DeliveryFault
  | [] => ([], d, none)
  | .wait delay jitter :: rest =>
      let (seconds, d) := Act.waitTime delay jitter d
      let (events, out) := perform s earlier d rest
      (.slept seconds :: events, out)
  | .pause seconds :: rest =>
      let (events, out) := perform s earlier d rest
      (.slept seconds :: events, out)
  | .write data :: rest =>
      if s.Short earlier data then
        ([.wrote data], d, some (.shortWrite (s.accepted earlier data) data.length))
      else
        let (events, out) := perform s (earlier ++ [data]) d rest
        (.wrote data :: events, out)
  | .fail fault :: _ => ([], d, some fault)

theorem take_accepted {s : Sink} {earlier : List Bytes} {data : Bytes}
    (whole : ¬ s.Short earlier data) : data.take (s.accepted earlier data) = data :=
  List.take_of_length_le (Nat.not_lt.1 whole)

theorem unbroken_cons {s : Sink} {earlier offered : List Bytes} {data : Bytes} :
    s.Unbroken earlier (data :: offered) ↔
      ¬ s.Short earlier data ∧ s.Unbroken (earlier ++ [data]) offered := by
  constructor
  · intro unbroken
    constructor
    · have first := unbroken [] data (List.prefix_append [data] offered)
      rwa [List.append_nil] at first
    · intro before next early
      have later := unbroken (data :: before) next ((List.prefix_cons_inj data).2 early)
      rwa [List.append_cons] at later
  · rintro ⟨first, later⟩ before next early
    cases before with
    | nil =>
        obtain ⟨rfl, _⟩ := List.cons_prefix_cons.1 early
        rwa [List.append_nil]
    | cons data before =>
        obtain ⟨rfl, rest⟩ := List.cons_prefix_cons.1 early
        rw [List.append_cons]
        exact later before next rest

end Sink

/-! What is seen of acts. -/

inductive Shows : Act → Event → Prop
  | wait : Shows (.wait delay jitter) (.slept seconds)
  | pause : Shows (.pause seconds) (.slept seconds)
  | write : Shows (.write data) (.wrote data)

theorem Shows.data_eq_nil {act : Act} {seconds : Float} (shows : Shows act (.slept seconds)) :
    act.data = [] := by
  cases shows <;> rfl

def Event.offer? : Event → Option Bytes
  | .slept _ => none
  | .wrote data => some data

def offers (events : List Event) : List Bytes := events.filterMap Event.offer?

@[simp] theorem offers_nil : offers [] = [] := rfl

@[simp] theorem offers_wrote (data : Bytes) (events : List Event) :
    offers (.wrote data :: events) = data :: offers events := rfl

namespace Sink

/-- How acts without a fault of their own are carried out. -/
inductive Carried (s : Sink) :
    (earlier : List Bytes) → List Act → List Event → Option DeliveryFault → Prop
  | done : Carried s earlier [] [] none
  | slept (shows : Shows act (.slept seconds)) (later : Carried s earlier rest events fault) :
      Carried s earlier (act :: rest) (.slept seconds :: events) fault
  | wrote (whole : ¬ s.Short earlier data)
      (later : Carried s (earlier ++ [data]) rest events fault) :
      Carried s earlier (.write data :: rest) (.wrote data :: events) fault
  | cut (short : s.Short earlier data) :
      Carried s earlier (.write data :: rest) [.wrote data]
        (some (.shortWrite (s.accepted earlier data) data.length))

theorem carried_perform (s : Sink) (earlier : List Bytes) (d : Dice) {acts : List Act}
    (fine : ∀ fault, .fail fault ∉ acts) :
    s.Carried earlier acts (s.perform earlier d acts).1 (s.perform earlier d acts).2.2 := by
  induction acts generalizing earlier d with
  | nil => exact .done
  | cons act rest ih =>
      have rest := fun earlier d => ih earlier d fun fault member =>
        fine fault (List.mem_cons_of_mem _ member)
      cases act with
      | wait delay jitter => exact .slept .wait (rest earlier _)
      | pause seconds => exact .slept .pause (rest earlier d)
      | write data =>
          rw [perform]
          split
          · next short => exact .cut short
          · next whole => exact .wrote whole (rest (earlier ++ [data]) d)
      | fail fault => exact absurd (List.mem_cons_self ..) (fine fault)

variable {s : Sink} {earlier : List Bytes} {acts : List Act} {events : List Event}
  {fault : Option DeliveryFault}

theorem Carried.begun (carried : s.Carried earlier acts events fault) :
    ∃ done, done <+: acts ∧ List.Forall₂ Shows done events := by
  induction carried with
  | done => exact ⟨[], List.prefix_rfl, .nil⟩
  | slept shows _ ih =>
      obtain ⟨done, early, seen⟩ := ih
      exact ⟨_ :: done, (List.prefix_cons_inj _).2 early, .cons shows seen⟩
  | wrote _ _ ih =>
      obtain ⟨done, early, seen⟩ := ih
      exact ⟨_ :: done, (List.prefix_cons_inj _).2 early, .cons .write seen⟩
  | cut => exact ⟨[_], List.prefix_append [_] _, .cons .write .nil⟩

theorem Carried.offered (carried : s.Carried earlier acts events fault) :
    (offers events).flatten <+: acts.flatMap Act.data := by
  induction carried with
  | done => exact List.prefix_rfl
  | slept shows _ ih => rwa [List.flatMap_cons, shows.data_eq_nil]
  | wrote _ _ ih => exact (List.prefix_append_right_inj _).2 ih
  | cut =>
      rw [offers_wrote, offers_nil, List.flatten_singleton]
      exact List.prefix_append _ _

/-- What is taken is a beginning of what is to be written, for only the last write is cut short. -/
theorem Carried.taken (carried : s.Carried earlier acts events fault) :
    s.taken earlier (offers events) <+: acts.flatMap Act.data := by
  induction carried with
  | done => exact List.prefix_rfl
  | slept shows _ ih => rwa [List.flatMap_cons, shows.data_eq_nil]
  | wrote whole _ ih =>
      rw [offers_wrote, Sink.taken, take_accepted whole]
      exact (List.prefix_append_right_inj _).2 ih
  | cut =>
      rw [offers_wrote, offers_nil, Sink.taken, Sink.taken, List.append_nil]
      exact (List.take_prefix _ _).trans (List.prefix_append _ _)

theorem Carried.finished (carried : s.Carried earlier acts events fault)
    (unbroken : s.Unbroken earlier (offers events)) :
    List.Forall₂ Shows acts events ∧ fault = none ∧
      s.taken earlier (offers events) = acts.flatMap Act.data := by
  induction carried with
  | done => exact ⟨.nil, rfl, rfl⟩
  | slept shows _ ih =>
      obtain ⟨seen, none, all⟩ := ih unbroken
      exact ⟨.cons shows seen, none, by rwa [List.flatMap_cons, shows.data_eq_nil]⟩
  | wrote whole _ ih =>
      obtain ⟨_, later⟩ := unbroken_cons.1 unbroken
      obtain ⟨seen, none, all⟩ := ih later
      refine ⟨.cons .write seen, none, ?_⟩
      rw [offers_wrote, Sink.taken, take_accepted whole, all]
      rfl
  | cut short => exact absurd short (unbroken_cons.1 unbroken).1

theorem Carried.stopped (carried : s.Carried earlier acts events fault) {before : List Bytes}
    {data : Bytes} (early : before ++ [data] <+: offers events)
    (short : s.Short (earlier ++ before) data) :
    offers events = before ++ [data] ∧ (∃ done, events = done ++ [.wrote data]) ∧
      fault = some (.shortWrite (s.accepted (earlier ++ before) data) data.length) ∧
      (s.taken earlier (offers events)).length < (acts.flatMap Act.data).length := by
  induction carried generalizing before with
  | done => exact absurd (List.prefix_nil.1 early) (by simp)
  | slept shows _ ih =>
      obtain ⟨last, ⟨done, ends⟩, stops, less⟩ := ih early short
      refine ⟨last, ⟨_ :: done, congrArg (_ :: ·) ends⟩, stops, ?_⟩
      rwa [List.flatMap_cons, shows.data_eq_nil]
  | wrote whole _ ih =>
      cases before with
      | nil =>
          obtain ⟨rfl, _⟩ := List.cons_prefix_cons.1 early
          rw [List.append_nil] at short
          exact absurd short whole
      | cons first before =>
          obtain ⟨rfl, rest⟩ := List.cons_prefix_cons.1 early
          rw [List.append_cons] at short
          obtain ⟨last, ⟨done, ends⟩, stops, less⟩ := ih rest short
          rw [← List.append_cons] at stops
          refine ⟨congrArg (first :: ·) last, ⟨_ :: done, congrArg (_ :: ·) ends⟩, stops, ?_⟩
          rw [offers_wrote, Sink.taken, take_accepted whole, List.flatMap_cons,
            List.length_append, List.length_append]
          exact Nat.add_lt_add_left less _
  | cut less =>
      cases before with
      | nil =>
          obtain ⟨rfl, _⟩ := List.cons_prefix_cons.1 early
          rw [List.append_nil]
          refine ⟨rfl, ⟨[], rfl⟩, rfl, ?_⟩
          rw [offers_wrote, offers_nil, Sink.taken, Sink.taken, List.append_nil, List.flatMap_cons,
            List.length_append, List.length_take]
          exact Nat.lt_of_lt_of_le (Nat.lt_of_le_of_lt (Nat.min_le_left _ _) less)
            (Nat.le_add_right _ _)
      | cons first before =>
          obtain ⟨_, rest⟩ := List.cons_prefix_cons.1 early
          exact absurd (List.prefix_nil.1 rest) (by simp)

/-- What a channel comes to, that is to get some bytes by planned acts. -/
structure Outcome (s : Sink) (planned : List Act) (whole : Bytes) (events : List Event)
    (fault : Option DeliveryFault) : Prop where
  begun : ∃ done, done <+: planned ∧ List.Forall₂ Shows done events
  offered : (offers events).flatten <+: whole
  taken : s.taken [] (offers events) <+: whole
  taken_all : s.taken [] (offers events) = whole ↔ s.Unbroken [] (offers events)
  finished : s.Unbroken [] (offers events) → List.Forall₂ Shows planned events ∧ fault = none
  stopped : ∀ before data, before ++ [data] <+: offers events → s.Short before data →
    offers events = before ++ [data] ∧ (∃ done, events = done ++ [.wrote data]) ∧
      fault = some (.shortWrite (s.accepted before data) data.length)

theorem outcome_perform (s : Sink) (d : Dice) {planned : List Act} {whole : Bytes}
    (sends : Act.Sends planned whole) :
    s.Outcome planned whole (s.perform [] d planned).1 (s.perform [] d planned).2.2 := by
  have carried := s.carried_perform [] d sends.fine
  obtain rfl := sends.sent
  refine ⟨carried.begun, carried.offered, carried.taken, ⟨?_, ?_⟩, ?_, ?_⟩
  · intro all before data early short
    obtain ⟨_, _, _, less⟩ := carried.stopped early short
    rw [all] at less
    exact Nat.lt_irrefl _ less
  · intro unbroken
    exact (carried.finished unbroken).2.2
  · intro unbroken
    obtain ⟨seen, none, _⟩ := carried.finished unbroken
    exact ⟨seen, none⟩
  · intro before data early short
    obtain ⟨last, ends, stops, _⟩ := carried.stopped early short
    exact ⟨last, ends, stops⟩

end Sink

def sink : Outlet → Sink
  | .all => ⟨fun _ data => some data.length⟩
  | .most n => ⟨fun _ data => some (min n.toNat data.length)⟩
  | .mute => ⟨fun _ _ => none⟩

theorem perform_sink {o : Outlet} (fair : ∀ n, o = .most n → 0 ≤ n) (earlier : List Bytes)
    (d : Dice) (acts : List Act) : o.perform d acts = o.sink.perform earlier d acts := by
  have accepts (earlier : List Bytes) (data : Bytes) :
      (o.accepts data.length).getD data.length = o.sink.accepted earlier data := by
    cases o with
    | all => rfl
    | most n =>
        have positive := fair n rfl
        have same : min n data.length = (min n.toNat data.length : Nat) := by omega
        exact same
    | mute => rfl
  induction acts generalizing earlier d with
  | nil => rfl
  | cons act rest ih =>
      cases act with
      | wait delay jitter =>
          rw [perform, Sink.perform]
          simp only [ih earlier]
      | pause seconds =>
          rw [perform, Sink.perform]
          simp only [ih earlier]
      | write data =>
          have taken := accepts earlier data
          rw [perform, Sink.perform]
          cases reported : o.accepts data.length with
          | none =>
              rw [reported, Option.getD_none] at taken
              have whole : ¬ o.sink.Short earlier data := by
                rw [Sink.Short]
                omega
              rw [if_neg whole]
              simp only [ih (earlier ++ [data])]
          | some n =>
              rw [reported, Option.getD_some] at taken
              have same : n < data.length ↔ o.sink.Short earlier data := by
                rw [Sink.Short]
                omega
              subst taken
              simp only [same, ih (earlier ++ [data])]
      | fail fault => rfl

end Outlet

end Breadboard
