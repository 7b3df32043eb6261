import Breadboard.Proofs.Emulator.Order
import Breadboard.Proofs.Recording.Session
import Breadboard.Proofs.Text.Trim

/-! What a read is taken for. A device gathers bytes until they are a request,
a recorder looks at each read by itself; both see the same requests, since all
that ever stays behind in the inbox of a device is whole, blank characters. -/

namespace Breadboard

open Utf8

/-- The requests among some reads, each read decoded by itself. -/
def framed (reads : List Bytes) : List Text :=
  (reads.map fun data => (decodeReplacing data).trim).filter (· ≠ [])

theorem framed_cons (data : Bytes) (reads : List Bytes) :
    framed (data :: reads) = framed [data] ++ framed reads :=
  List.filter_append [_] _

theorem framed_of_blank {data : Bytes}
    (blank : (decodeReplacing data).trim = []) : framed [data] = [] :=
  List.filter_cons_of_neg (by simpa using blank)

theorem framed_of_given {data : Bytes}
    (given : (decodeReplacing data).trim ≠ []) :
    framed [data] = [(decodeReplacing data).trim] :=
  List.filter_cons_of_pos (by simpa using given)

/-! The inbox. -/

namespace Inbox

def Clear (held : Bytes) : Prop := Text.Void (decodeReplacing held)

theorem clear_nil : Clear [] := fun _ member => nomatch member

/-- Bytes that end inside a character are replaced by one that is not blank. -/
theorem Clear.whole {held : Bytes} (clear : Clear held) :
    (run none held).2 = none := by
  rw [Clear, decodeReplacing, pieces] at clear
  cases reader : (run none held).2 with
  | none => rfl
  | some p =>
      have stray : CodePoint.char '\uFFFD' ∈
          ((run none held).1 ++ finish (run none held).2).flatMap
            Piece.replaced := by
        rw [reader]
        simp [finish, Piece.replaced]
      exact absurd (clear _ stray) (by decide)

/-- What waits in a clear inbox does not change the request that a read is
taken for. -/
theorem feed_clear {held : Bytes} (clear : Clear held) (data : Bytes) :
    (feed held data).1.toList = framed [data] ∧ Clear (feed held data).2 := by
  have apart := decodeReplacing_append clear.whole data
  have trimmed : (decodeReplacing (held ++ data)).trim =
      (decodeReplacing data).trim := by
    rw [apart, Text.trim_append_of_void_left clear]
  rw [feed]
  split
  · next blank =>
      refine ⟨?_, Text.trim_eq_nil_iff.1 blank⟩
      rw [trimmed] at blank
      rw [framed_of_blank blank]
      rfl
  · next given =>
      refine ⟨?_, clear_nil⟩
      rw [trimmed] at given ⊢
      rw [framed_of_given given]
      rfl

end Inbox

/-! The dispatch neither queues a request nor forgets one. -/

def Dispatch.asked (d : Dispatch) : List Text :=
  d.events.filterMap DispatchEvent.asked?

namespace Dispatch

variable (c : Channel) (d : Dispatch) (h : Host)

theorem asked_resume_of_serve {queue : List Text}
    (ih : ∀ engine events h, asked (serve c queue engine events h).1 =
      events.filterMap DispatchEvent.asked?)
    (acts : List Act) (same : d.queue = queue) :
    asked (resume c acts d h).1 = d.asked := by
  rw [resume]
  split
  · rw [next, same, ih, List.filterMap_append]
    exact List.append_nil _
  · rfl

theorem asked_serve (queue : List Text) (engine : Engine)
    (events : List DispatchEvent) :
    asked (serve c queue engine events h).1 =
      events.filterMap DispatchEvent.asked? := by
  induction queue generalizing engine events h with
  | nil => rfl
  | cons request queue ih =>
      rw [serve_cons, asked_resume_of_serve c _ h (fun _ _ _ => ih _ _ _) _ rfl,
        asked, List.filterMap_append]
      exact List.append_nil _

theorem asked_next : asked (next c d h).1 = d.asked := by
  rw [next, asked_serve, List.filterMap_append]
  exact List.append_nil _

theorem asked_resume (acts : List Act) :
    asked (resume c acts d h).1 = d.asked :=
  asked_resume_of_serve c d h (fun _ _ _ => asked_serve ..) acts rfl

theorem asked_ring : asked (ring c d h).1 = d.asked := by
  rw [ring]
  split
  · rfl
  · apply asked_resume
  · apply asked_next

theorem asked_wake : asked (wake c d h).1 = d.asked := by
  rw [wake]
  split
  · split
    · split
      · apply asked_next
      · apply asked_resume
    · rfl
    · apply asked_next
  · rfl

theorem asked_accept (request : Text) :
    asked (accept c request d h).1 = d.asked ++ [request] := by
  have queued : asked (d.enqueue request) = d.asked ++ [request] :=
    List.filterMap_append ..
  rw [accept_eq]
  split
  · rw [asked_serve]
    exact queued
  · exact queued

end Dispatch

/-! A device that runs. -/

namespace VirtualDevice

/-- What does not change while a device is left alone with its clients. -/
structure Stays (d d' : VirtualDevice) : Prop where
  state : d'.state = d.state
  inbox : d'.inbox = d.inbox
  asked : d'.dispatch.asked = d.dispatch.asked

theorem Stays.refl (d : VirtualDevice) : d.Stays d := ⟨rfl, rfl, rfl⟩

theorem Stays.trans {a b c : VirtualDevice} (first : a.Stays b)
    (second : b.Stays c) : a.Stays c where
  state := second.state.trans first.state
  inbox := second.inbox.trans first.inbox
  asked := second.asked.trans first.asked

variable {d : VirtualDevice}

theorem settle_running (running : d.state = .running) (h : Host) :
    d.settle h = (d, h) := by
  rw [settle]
  split
  · next draining =>
      rw [running] at draining
      cases draining
  · rfl

theorem alarm_running (running : d.state = .running) {time : Nat}
    {alarm : Alarm} (due : d.alarm? = some (time, alarm)) :
    alarm = .dispatch := by
  simp only [alarm?, running] at due
  split at due
  · next given => cases given
  · cases due
    rfl
  · next given => cases given
  · cases due

theorem stays_dispatched (d : VirtualDevice) {dispatch : Dispatch}
    (same : dispatch.asked = d.dispatch.asked) :
    d.Stays { d with dispatch } := ⟨rfl, rfl, same⟩

theorem stays_run (till : Option Nat) (h : Host)
    (running : d.state = .running) : d.Stays (d.run till h).1 := by
  fun_induction run till d h with
  | case1 d h _ => exact .refl d
  | case2 d h time alarm _ now late => exact .refl d
  | case3 d h time alarm due now _ next ih =>
      obtain rfl := alarm_running running due
      have rung : d.Stays next.1 := by
        simp only [next, ring]
        rw [settle_running]
        · exact stays_dispatched d (Dispatch.asked_ring ..)
        · exact running
      exact rung.trans (ih (rung.state.trans running))

/-- What brings a device no bytes and does not make it stop. -/
def Happening.IsQuiet : Happening → Prop
  | .incident (.drain _) => True
  | .incident (.room _) => True
  | .incident (.fault _ _) => True
  | .incident (.advance _) => True
  | .incident .signal => True
  | _ => False

theorem stays_happen {x : Happening} (quiet : x.IsQuiet)
    (running : d.state = .running) (h : Host) :
    d.Stays (happen (d, h) x).1 := by
  cases x with
  | feed data => cases quiet
  | drain => cases quiet
  | stop => cases quiet
  | incident i =>
      simp only [happen]
      cases i with
      | drain n =>
          simp only [meet]
          rw [settle_running]
          · exact stays_dispatched d (Dispatch.asked_wake ..)
          · exact running
      | advance span =>
          rw [meet]
          have first := stays_run (some (Clock.after h.now span)) h running
          split
          next d' h' ran =>
            rw [ran] at first
            exact first.trans
              (stays_run _ _ (first.state.trans running))
      | room n => exact .refl d
      | fault call fault => exact .refl d
      | signal => exact .refl d
      | client data => cases quiet
      | hangUp => cases quiet
      | wake => cases quiet
      | readFault fault => cases quiet

theorem feed_running (running : d.state = .running)
    (clear : Inbox.Clear d.inbox) (data : Bytes) (h : Host) :
    (d.feed data h).1.state = .running ∧
      Inbox.Clear (d.feed data h).1.inbox ∧
      (d.feed data h).1.dispatch.asked =
        d.dispatch.asked ++ framed [data] := by
  obtain ⟨seen, clear'⟩ := Inbox.feed_clear clear data
  rw [← seen]
  rw [feed]
  generalize Inbox.feed d.inbox data = read at clear' ⊢
  obtain ⟨request, inbox⟩ := read
  cases request with
  | none => exact ⟨running, clear', (List.append_nil _).symm⟩
  | some request =>
      have on : d.state.dispatches = true := by
        rw [running]
        rfl
      simp only [if_pos on]
      exact ⟨running, clear', Dispatch.asked_accept ..⟩

def Happening.read? : Happening → Option Bytes
  | .feed data => some data
  | _ => none

/-- Between the reads anything may happen that is quiet. -/
theorem asked_foldl {happenings : List Happening} {now : VirtualDevice × Host}
    (quiet : ∀ x ∈ happenings, x.read? = none → x.IsQuiet)
    (running : now.1.state = .running) (clear : Inbox.Clear now.1.inbox) :
    (happenings.foldl happen now).1.dispatch.asked =
      now.1.dispatch.asked ++
        framed (happenings.filterMap Happening.read?) := by
  induction happenings generalizing now with
  | nil => exact (List.append_nil _).symm
  | cons x rest ih =>
      have later : ∀ y ∈ rest, y.read? = none → y.IsQuiet :=
        fun y member => quiet y (List.mem_cons_of_mem _ member)
      rw [List.foldl_cons, List.filterMap_cons]
      cases read : x.read? with
      | none =>
          have still := stays_happen (quiet x (List.mem_cons_self ..) read)
            running now.2
          rw [ih later (still.state.trans running) (still.inbox ▸ clear),
            still.asked]
      | some data =>
          obtain rfl : x = .feed data := by
            cases x with
            | feed other =>
                cases read
                rfl
            | incident i => cases read
            | drain => cases read
            | stop => cases read
          obtain ⟨running', clear', asked⟩ :=
            feed_running running clear data now.2
          dsimp only
          rw [framed_cons data, ← List.append_assoc, ← asked]
          exact ih later running' clear'

theorem running_start {d₀ : VirtualDevice} {h h₀ : Host}
    (started : d.start h = (.ok (), d₀, h₀)) :
    d₀.state = .running ∧ d₀.inbox = [] := by
  rw [start] at started
  split at started
  · split at started
    · cases started
      exact ⟨rfl, rfl⟩
    · cases started
  · cases started

end VirtualDevice

/-! A recorder. -/

namespace Recorder

/-- How many responses there are when the recorder finishes. -/
def count (r : Recorder) : Nat :=
  (r.finish.mappings.flatMap (·.responses)).length

/-- The request that is being recorded, if a response has begun since. -/
def begun (r next : Recorder) : List Text :=
  if r.count < next.count then (next.take.map (·.request)).toList else []

/-- The requests that begin responses, told from the recorder. -/
def heard (r : Recorder) : List Event → List Text
  | [] => []
  | event :: rest => r.begun (r.record event) ++ heard (r.record event) rest

def Event.read? : Event → Option Bytes
  | .request _ data => some data
  | _ => none

theorem length_addResponses (request : Text) (new : List Response)
    (ms : Mappings) :
    ((ms.addResponses request new).flatMap (·.responses)).length =
      (ms.flatMap (·.responses)).length + new.length := by
  induction ms with
  | nil => simp [Mappings.addResponses]
  | cons m ms ih =>
      rw [Mappings.addResponses]
      split
      · simp only [List.flatMap_cons, List.length_append]
        omega
      · simp only [List.flatMap_cons, List.length_append, ih]
        omega

theorem count_of_take {r : Recorder} {t : Take} (taking : r.take = some t) :
    r.count = (r.mappings.flatMap (·.responses)).length + 1 := by
  rw [count, finish, taking]
  exact length_addResponses ..

theorem count_response (r : Recorder) (now : Float) (data : Bytes) :
    (r.response now data).count = r.count := by
  cases taking : r.take with
  | none => rw [response_of_idle taking]
  | some t =>
      have later : (r.response now data).take = some (t.add now data) := by
        rw [response, taking]
        rfl
      rw [count_of_take taking, count_of_take later]
      rfl

theorem begun_of_count_eq {r next : Recorder} (same : next.count = r.count) :
    r.begun next = [] := by
  rw [begun, same, if_neg (Nat.lt_irrefl _)]

theorem begun_request (r : Recorder) (now : Float) (data : Bytes) :
    r.begun (r.request now data) = framed [data] := by
  by_cases blank : requestOf data = []
  · rw [request_blank blank, begun_of_count_eq rfl, framed_of_blank blank]
  · have more : r.count < (r.request now data).count := by
      have taking : (r.request now data).take =
          some { request := requestOf data, lastEvent := now } := by
        rw [request_of_ne_nil blank]
      rw [count_of_take taking, request_of_ne_nil blank]
      exact Nat.lt_succ_self r.count
    rw [begun, if_pos more, framed_of_given blank, request_of_ne_nil blank]
    rfl

theorem heard_eq (r : Recorder) (events : List Event) :
    r.heard events = framed (events.filterMap Event.read?) := by
  induction events generalizing r with
  | nil => rfl
  | cons event rest ih =>
      rw [heard, ih]
      cases event with
      | request now data =>
          rw [record, begun_request]
          exact (framed_cons ..).symm
      | response now data =>
          rw [record, begun_of_count_eq (count_response ..)]
          rfl
      | finish =>
          have same : r.finish.count = r.count := by
            rw [count, finish_finish, count]
          rw [record, begun_of_count_eq same]
          rfl

end Recorder

namespace VirtualDevice

/-- A device that has started queues the requests that a recorder files for
the same reads: those that the reads hold one by one. Neither what waits in
the inbox nor what else happens to either changes them. -/
theorem frames_alike {d d₀ : VirtualDevice} {h h₀ : Host}
    (started : d.start h = (.ok (), d₀, h₀)) (happenings : List Happening)
    (quiet : ∀ x ∈ happenings, x.read? = none → x.IsQuiet)
    (events : List Recorder.Event)
    (same : happenings.filterMap Happening.read? =
      events.filterMap Recorder.Event.read?) :
    (happenings.foldl happen (d₀, h₀)).1.dispatch.asked =
        d₀.dispatch.asked ++ Recorder.heard {} events ∧
      Recorder.heard {} events =
        framed (events.filterMap Recorder.Event.read?) := by
  obtain ⟨running, empty⟩ := running_start started
  have clear : Inbox.Clear d₀.inbox := by
    rw [empty]
    exact Inbox.clear_nil
  have recorded := Recorder.heard_eq {} events
  refine ⟨?_, recorded⟩
  rw [recorded, ← same]
  exact asked_foldl quiet running clear

/-- Blanks that stay behind, a character cut in two, and blanks in between. -/
def mumbled : List Happening := [.feed [0x20, 0xC2, 0xA0],
  .incident (.drain 2), .feed [0xC3], .feed [0x0A], .feed [0xA9, 0x61, 0x20]]

def overheard : List Recorder.Event := [.request 0.0 [0x20, 0xC2, 0xA0],
  .request 1.0 [0xC3], .response 1.5 [0x0A], .request 2.0 [0x0A], .finish,
  .request 3.0 [0xA9, 0x61, 0x20]]

theorem mumbled_alike :
    desk.start narrow = (.ok (), begun.1, begun.2) ∧
      mumbled.filterMap Happening.read? =
        overheard.filterMap Recorder.Event.read? ∧
      (mumbled.foldl happen begun).1.dispatch.asked =
        [text "\uFFFD", text "\uFFFDa"] ∧
      Recorder.heard {} overheard = [text "\uFFFD", text "\uFFFDa"] := by
  have started : desk.start narrow = (.ok (), begun.1, begun.2) := rfl
  have quiet : ∀ x ∈ mumbled, x.read? = none → x.IsQuiet := by
    simp [mumbled, Happening.read?, Happening.IsQuiet]
  have same : mumbled.filterMap Happening.read? =
      overheard.filterMap Recorder.Event.read? := rfl
  have known : framed (overheard.filterMap Recorder.Event.read?) =
      [text "\uFFFD", text "\uFFFDa"] := by decide
  obtain ⟨queued, recorded⟩ := frames_alike started mumbled quiet overheard same
  rw [recorded, known] at queued
  exact ⟨started, same, queued, recorded.trans known⟩

end VirtualDevice

end Breadboard
