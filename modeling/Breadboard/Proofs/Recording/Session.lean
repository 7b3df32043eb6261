import Breadboard.Proofs.Data.Join
import Breadboard.Proofs.Text.Quoted
import Breadboard.Recording.Recorder

/-! A session as the recorder sees it: requests, reads from the device and
finishes, in any order. What is recorded is told from the events alone, and
recording loses nothing of it and adds nothing to it. -/

namespace Breadboard

def Response.said (r : Response) : Text :=
  r.chunks.flatMap fun c => Literal.decode c.data

namespace Recorder

inductive Event where
  | request (now : Float) (data : Bytes)
  | response (now : Float) (data : Bytes)
  | finish

def record (r : Recorder) : Event → Recorder
  | .request now data => r.request now data
  | .response now data => r.response now data
  | .finish => r.finish

def after (events : List Event) : Recorder := events.foldl record {}

def recorded (events : List Event) : Mappings := (after events).finish.mappings

structure Exchange where
  request : Text
  reply : Bytes

/-- The bytes of the responses up to the next request that is not blank, or up
to the next finish. -/
def reply : List Event → Bytes
  | [] => []
  | .response _ data :: rest => data ++ reply rest
  | .request _ data :: rest => if requestOf data = [] then reply rest else []
  | .finish :: _ => []

/-- The requests of a session that are not blank, each with its reply. -/
def exchanges : List Event → List Exchange
  | [] => []
  | .request _ data :: rest =>
      if requestOf data = [] then exchanges rest
      else ⟨requestOf data, reply rest⟩ :: exchanges rest
  | .response _ _ :: rest => exchanges rest
  | .finish :: rest => exchanges rest

/-- No request that is not blank has come since the last finish, or at all. -/
def Idle (events : List Event) : Prop :=
  ∃ before since, events = before ++ since ∧
    (before = [] ∨ ∃ earlier, before = earlier ++ [.finish]) ∧
    ∀ now data, .request now data ∈ since → requestOf data = []

/-! Mappings made of answers that are filed one by one. -/

abbrev Answer := Text × Response

def file (ms : Mappings) (answer : Answer) : Mappings :=
  ms.addResponses answer.1 [answer.2]

def filedUnder (answers : List Answer) (request : Text) : List Response :=
  (answers.filter fun answer => answer.1 = request).map Prod.snd

def plainMapping (responses : Text → List Response) (request : Text) :
    Mapping :=
  { request, responses := responses request }

theorem addResponses_of_mem {responses added : Text → List Response}
    {requests : List Text} {request : Text} {new : List Response}
    (nodup : requests.Nodup) (member : request ∈ requests)
    (same : added request = responses request ++ new)
    (others : ∀ other, other ≠ request → added other = responses other) :
    Mappings.addResponses request new
        (requests.map (plainMapping responses)) =
      requests.map (plainMapping added) := by
  induction requests with
  | nil => cases member
  | cons first rest ih =>
      obtain ⟨absent, restNodup⟩ := List.nodup_cons.1 nodup
      by_cases equality : first = request
      · subst equality
        have unchanged : rest.map (plainMapping responses) =
            rest.map (plainMapping added) := by
          refine List.map_congr_left fun other inRest => ?_
          have different : other ≠ first := by
            rintro rfl
            exact absent inRest
          rw [plainMapping, plainMapping, others other different]
        simp [Mappings.addResponses, plainMapping, same] at unchanged ⊢
        exact unchanged
      · have inRest : request ∈ rest := by
          rcases List.mem_cons.1 member with rfl | inRest
          · exact absurd rfl equality
          · exact inRest
        have head : plainMapping responses first = plainMapping added first := by
          rw [plainMapping, plainMapping, others first equality]
        simp only [List.map_cons, Mappings.addResponses]
        rw [ih restNodup inRest, if_neg (by exact equality), head]

theorem addResponses_of_notMem {responses added : Text → List Response}
    {requests : List Text} {request : Text} {new : List Response}
    (absent : request ∉ requests) (same : added request = new)
    (others : ∀ other, other ≠ request → added other = responses other) :
    Mappings.addResponses request new
        (requests.map (plainMapping responses)) =
      (requests ++ [request]).map (plainMapping added) := by
  induction requests with
  | nil => simp [Mappings.addResponses, plainMapping, same]
  | cons first rest ih =>
      simp only [List.mem_cons, not_or] at absent
      obtain ⟨different, notRest⟩ := absent
      have head : plainMapping responses first = plainMapping added first := by
        rw [plainMapping, plainMapping, others first (Ne.symm different)]
      simp only [List.map_cons, List.cons_append, Mappings.addResponses]
      rw [ih notRest, if_neg (by exact Ne.symm different), head]

theorem filedUnder_concat_self (answers : List Answer) (answer : Answer) :
    filedUnder (answers ++ [answer]) answer.1 =
      filedUnder answers answer.1 ++ [answer.2] := by
  simp [filedUnder]

theorem filedUnder_concat_other (answers : List Answer) (answer : Answer)
    {request : Text} (different : request ≠ answer.1) :
    filedUnder (answers ++ [answer]) request = filedUnder answers request := by
  simp [filedUnder, different.symm]

theorem filedUnder_of_notMem {answers : List Answer} {request : Text}
    (absent : request ∉ answers.map Prod.fst) :
    filedUnder answers request = [] := by
  rw [filedUnder, List.map_eq_nil_iff, List.filter_eq_nil_iff]
  intro answer member
  simp only [decide_eq_true_eq]
  rintro rfl
  exact absent (List.mem_map_of_mem member)

/-- Each request has one mapping, in the order in which the requests first
came, with all its answers in theirs. -/
theorem foldl_file (answers : List Answer) :
    answers.foldl file [] =
      (answers.map Prod.fst).eraseDups.map
        (plainMapping (filedUnder answers)) := by
  induction answers using List.reverseRecOn with
  | nil => rfl
  | append_singleton answers answer ih =>
      have others : ∀ other, other ≠ answer.1 →
          filedUnder (answers ++ [answer]) other = filedUnder answers other :=
        fun other different => filedUnder_concat_other answers answer different
      rw [List.foldl_append, ih, List.map_append, List.map_singleton,
        eraseDups_concat, List.foldl_cons, List.foldl_nil, file]
      split
      · next member =>
          exact addResponses_of_mem (nodup_eraseDups _)
            (List.mem_eraseDups.2 member)
            (filedUnder_concat_self answers answer) others
      · next absent =>
          refine addResponses_of_notMem
            (fun member => absent (List.mem_eraseDups.1 member)) ?_ others
          rw [filedUnder_concat_self, filedUnder_of_notMem absent,
            List.nil_append]

end Recorder

/-! A take holds the bytes it was given, decoded as far as they go. -/

structure Take.Holds (t : Take) (data : Bytes) : Prop where
  said : (t.chunks.flatMap fun c => Literal.decode c.data) =
    (Utf8.run none data).1.flatMap Utf8.Piece.escaped
  reader : t.reader = (Utf8.run none data).2

theorem Take.Holds.add {t : Take} {data : Bytes} (holds : t.Holds data)
    (now : Float) (more : Bytes) : (t.add now more).Holds (data ++ more) where
  said := by
    rw [Utf8.run_append, List.flatMap_append, ← holds.said, ← holds.reader]
    simp [Take.add, Literal.decode_encode]
  reader := by
    rw [Utf8.run_append, ← holds.reader]
    rfl

theorem Take.said_tail (t : Take) :
    (t.tail.flatMap fun c => Literal.decode c.data) =
      (Utf8.finish t.reader).flatMap Utf8.Piece.escaped := by
  rw [Take.tail]
  split
  · next nothing => exact nothing.symm
  · simp [Literal.decode_encode]

theorem Take.Holds.response {t : Take} {data : Bytes} (holds : t.Holds data) :
    t.response.said = Utf8.decodeEscaping data := by
  rw [Response.said, Take.response, List.flatMap_append, holds.said,
    t.said_tail, holds.reader, Utf8.decodeEscaping, Utf8.pieces,
    List.flatMap_append]

namespace Recorder

/-! What each event does to a recorder. -/

theorem request_blank {data : Bytes} (blank : requestOf data = [])
    (now : Float) (r : Recorder) : r.request now data = r := by
  rw [request, blank]

theorem request_of_ne_nil {data : Bytes} (given : requestOf data ≠ [])
    (now : Float) (r : Recorder) :
    r.request now data =
      ⟨r.finish.mappings,
        some { request := requestOf data, lastEvent := now }⟩ := by
  rw [request]
  split
  · next blank => exact absurd blank given
  · rfl

theorem response_of_idle {r : Recorder} (idle : r.take = none)
    (now : Float) (data : Bytes) : r.response now data = r := by
  rw [response, idle, Option.map_none, ← idle]

theorem finish_of_idle {r : Recorder} (idle : r.take = none) :
    r.finish = r := by
  rw [finish, idle]

theorem take_finish (r : Recorder) : r.finish.take = none := by
  rw [finish]
  split
  · next idle => exact idle
  · rfl

theorem finish_finish (r : Recorder) : r.finish.finish = r.finish :=
  finish_of_idle r.take_finish

theorem holds_nothing (request : Text) (now : Float) :
    Take.Holds { request, lastEvent := now } [] := ⟨rfl, rfl⟩

/-- Answers say what was sent, each under the request it was sent for. -/
def Answering (answers : List Answer) (session : List Exchange) : Prop :=
  (answers.map fun answer => (answer.1, answer.2.said)) =
    session.map fun x => (x.request, Utf8.decodeEscaping x.reply)

theorem Answering.cons {answers : List Answer} {session : List Exchange}
    {t : Take} {data : Bytes} (holds : t.Holds data)
    (rest : Answering answers session) :
    Answering ((t.request, t.response) :: answers)
      (⟨t.request, data⟩ :: session) := by
  rw [Answering, List.map_cons, List.map_cons, holds.response, rest]

/-- What is filed in the end, from a recorder that waits for a request and
from one that is in the middle of a response. -/
theorem exists_filed (events : List Event) :
    (∀ ms, ∃ answers,
      (events.foldl record ⟨ms, none⟩).finish.mappings =
        answers.foldl file ms ∧
      Answering answers (exchanges events)) ∧
    ∀ ms t data, Take.Holds t data → ∃ answers,
      (events.foldl record ⟨ms, some t⟩).finish.mappings =
        answers.foldl file ms ∧
      Answering answers (⟨t.request, data ++ reply events⟩ :: exchanges events)
    := by
  induction events with
  | nil =>
      constructor
      · exact fun ms => ⟨[], rfl, rfl⟩
      · intro ms t data holds
        refine ⟨[(t.request, t.response)], rfl, ?_⟩
        rw [reply, List.append_nil]
        exact .cons holds rfl
  | cons event rest ih =>
      obtain ⟨waiting, taking⟩ := ih
      cases event with
      | request now data =>
          by_cases blank : requestOf data = []
          · simp only [List.foldl_cons, record, request_blank blank, exchanges,
              reply, blank, if_true]
            exact ⟨waiting, taking⟩
          · simp only [List.foldl_cons, record, request_of_ne_nil blank,
              exchanges, reply, blank, if_false, List.append_nil]
            constructor
            · exact fun ms => taking ms _ [] (holds_nothing _ now)
            · intro ms t held holds
              obtain ⟨answers, filed, answering⟩ :=
                taking (file ms (t.request, t.response)) _ []
                  (holds_nothing (requestOf data) now)
              exact ⟨(t.request, t.response) :: answers, filed,
                .cons holds answering⟩
      | response now data =>
          constructor
          · intro ms
            rw [List.foldl_cons, record, response_of_idle rfl]
            exact waiting ms
          · intro ms t held holds
            rw [reply, ← List.append_assoc]
            exact taking ms _ _ (holds.add now data)
      | finish =>
          constructor
          · exact fun ms => waiting ms
          · intro ms t held holds
            obtain ⟨answers, filed, answering⟩ :=
              waiting (file ms (t.request, t.response))
            refine ⟨(t.request, t.response) :: answers, filed, ?_⟩
            rw [reply, List.append_nil]
            exact .cons holds answering

theorem exists_answers (events : List Event) :
    ∃ answers, recorded events = answers.foldl file [] ∧
      Answering answers (exchanges events) :=
  (exists_filed events).1 []

theorem Answering.requests {answers : List Answer} {session : List Exchange}
    (answering : Answering answers session) :
    answers.map Prod.fst = session.map (·.request) := by
  have first := congrArg (List.map Prod.fst) answering
  simpa only [List.map_map, Function.comp_def] using first

theorem Answering.filedUnder {answers : List Answer} {session : List Exchange}
    (answering : Answering answers session) (request : Text) :
    (Recorder.filedUnder answers request).map Response.said =
      (session.filter fun x => x.request = request).map fun x =>
        Utf8.decodeEscaping x.reply := by
  have kept := congrArg
    (fun all => (all.filter fun x => x.1 = request).map Prod.snd) answering
  simpa only [List.filter_map, List.map_map, Function.comp_def,
    Recorder.filedUnder] using kept

theorem after_concat (events : List Event) (event : Event) :
    after (events ++ [event]) = (after events).record event := by
  rw [after, List.foldl_append]
  rfl

theorem take_of_foldl {r : Recorder} {events : List Event}
    (idle : r.take = none)
    (blank : ∀ now data, .request now data ∈ events → requestOf data = []) :
    (events.foldl record r).take = none := by
  induction events generalizing r with
  | nil => exact idle
  | cons event rest ih =>
      have restBlank : ∀ now data, .request now data ∈ rest →
          requestOf data = [] :=
        fun now data member => blank now data (List.mem_cons_of_mem _ member)
      rw [List.foldl_cons]
      refine ih ?_ restBlank
      cases event with
      | request now data =>
          rw [record, request_blank (blank now data (List.mem_cons_self ..))]
          exact idle
      | response now data =>
          rw [record, response_of_idle idle]
          exact idle
      | finish => exact r.take_finish

theorem Idle.take {events : List Event} (idle : Idle events) :
    (after events).take = none := by
  obtain ⟨before, since, rfl, start, blank⟩ := idle
  rw [after, List.foldl_append]
  refine take_of_foldl ?_ blank
  rcases start with rfl | ⟨earlier, rfl⟩
  · rfl
  · rw [← after, after_concat]
    exact take_finish _

theorem recorded_eq {events : List Event} {answers : List Answer}
    (filed : recorded events = answers.foldl file [])
    (answering : Answering answers (exchanges events)) :
    recorded events =
      ((exchanges events).map (·.request)).eraseDups.map
        (plainMapping (filedUnder answers)) := by
  rw [filed, foldl_file, answering.requests]

/-- Every request that is not blank is recorded once with each of its replies,
byte for byte, and nothing else is: not what comes before the first request or
after a finish, not blank requests, not a second finish. -/
theorem recorded_faithful (events : List Event) :
    (recorded events).map (·.request) =
        ((exchanges events).map (·.request)).eraseDups ∧
      ((recorded events).map (·.request)).Nodup ∧
      (∀ m ∈ recorded events,
        m.responses.map Response.said =
          ((exchanges events).filter fun x => x.request = m.request).map
            fun x => Utf8.decodeEscaping x.reply) ∧
      (∀ m ∈ recorded events,
        m.responses.map (fun r => Utf8.encode? r.said) =
          ((exchanges events).filter fun x => x.request = m.request).map
            fun x => some x.reply) ∧
      (∀ now data, Idle events →
        after (events ++ [.response now data]) = after events) ∧
      (∀ now data, requestOf data = [] →
        after (events ++ [.request now data]) = after events) ∧
      after (events ++ [.finish, .finish]) = after (events ++ [.finish]) := by
  obtain ⟨answers, filed, answering⟩ := exists_answers events
  have shape := recorded_eq filed answering
  have requests : (recorded events).map (·.request) =
      ((exchanges events).map (·.request)).eraseDups := by
    rw [shape, List.map_map]
    exact List.map_id _
  have said : ∀ m ∈ recorded events,
      m.responses.map Response.said =
        ((exchanges events).filter fun x => x.request = m.request).map
          fun x => Utf8.decodeEscaping x.reply := by
    intro m member
    rw [shape] at member
    obtain ⟨request, _, rfl⟩ := List.mem_map.1 member
    exact answering.filedUnder request
  refine ⟨requests, requests ▸ nodup_eraseDups _, said, ?_, ?_, ?_, ?_⟩
  · intro m member
    have bytes := congrArg (List.map Utf8.encode?) (said m member)
    simpa only [List.map_map, Function.comp_def, Utf8.encode?_decodeEscaping]
      using bytes
  · intro now data idle
    rw [after_concat]
    exact response_of_idle idle.take now data
  · intro now data blank
    rw [after_concat]
    exact request_blank blank now _
  · rw [← List.singleton_append, ← List.append_assoc, after_concat,
      after_concat]
    exact finish_finish _

end Recorder

end Breadboard
