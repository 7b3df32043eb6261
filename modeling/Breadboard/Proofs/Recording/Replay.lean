import Breadboard.Proofs.Recording.Session
import Breadboard.Proofs.Response.Delivery
import Mathlib.Logic.Function.Basic

/-! An engine that plays recorded mappings. Handed the requests of a session
again, it answers each with the bytes that the device sent. -/

namespace Breadboard

open Recorder

namespace Engine

/-- Handles requests one after another; what became of each, and the bytes
that were written for it. -/
def handleAll (o : Outlet) (e : Engine) : List Text → List (Verdict × Bytes)
  | [] => []
  | request :: rest =>
      let (verdict, events, e) := e.handle o request
      (verdict, Outlet.written events) :: handleAll o e rest

end Engine

/-! Rules of recorded mappings. -/

theorem Response.rendered_none (r : Response) :
    r.rendered none = .ok r.said := by
  obtain ⟨chunks, weight⟩ := r
  have parts : chunks.mapM (Act.render none ·.data) =
      .ok (chunks.map fun c => Literal.decode c.data) := by
    induction chunks with
    | nil => rfl
    | cons c rest ih =>
        rw [List.mapM_cons, ih]
        rfl
  rw [rendered, parts]
  rfl

namespace Rule

def plain (responses : Text → List Response) (served : Text → Nat)
    (request : Text) : Rule :=
  ⟨plainMapping responses request, .literal request, served request⟩

theorem all_plain (responses : Text → List Response) (requests : List Text)
    (index : Nat) :
    all index (requests.map (plainMapping responses)) =
      .ok (requests.map (plain responses fun _ => 0)) := by
  induction requests generalizing index with
  | nil => rfl
  | cons request rest ih =>
      rw [List.map_cons, all, ih]
      rfl

variable {responses : Text → List Response} {served : Text → Nat}
  {request : Text}

theorem triggered_self :
    (plain responses served request).triggered? request = some none := by
  have whole : request.contains request = true :=
    Text.contains_iff.2 List.infix_rfl
  simp only [triggered?, plain, whole, if_true]

theorem triggered_apart {other : Text} (apart : ¬ other <:+: request) :
    (plain responses served other).triggered? request = none := by
  have missing : ¬ request.contains other = true :=
    fun found => apart (Text.contains_iff.1 found)
  simp only [triggered?, plain, missing, if_false, Bool.false_eq_true]

theorem first_append {front rest : List Rule}
    (missed : ∀ r ∈ front, r.triggered? request = none) (index : Nat) :
    first? request index (front ++ rest) =
      first? request (index + front.length) rest := by
  induction front generalizing index with
  | nil => rfl
  | cons r front ih =>
      rw [List.cons_append, first?, missed r (List.mem_cons_self ..)]
      have later := ih
        (fun other member => missed other (List.mem_cons_of_mem _ member))
        (index + 1)
      rw [Nat.add_right_comm] at later
      exact later

theorem map_plain_update {others : List Text} (absent : request ∉ others)
    (n : Nat) :
    others.map (plain responses (Function.update served request n)) =
      others.map (plain responses served) := by
  refine List.map_congr_left fun other member => ?_
  have different : other ≠ request := by
    rintro rfl
    exact absent member
  rw [plain, plain, Function.update_of_ne different]

/-- The rule of a request answers it, and what counts the answer leaves the
other rules as they are. -/
theorem first_plain (responses : Text → List Response) (served : Text → Nat)
    {requests : List Text} (nodup : requests.Nodup)
    (member : request ∈ requests)
    (apart : ∀ other ∈ requests, other <:+: request → other = request) :
    ∃ i, first? request 0 (requests.map (plain responses served)) =
        some (i, plain responses served request, none) ∧
      (requests.map (plain responses served))[i]? =
        some (plain responses served request) ∧
      ∀ n, (requests.map (plain responses served)).set i
          { plain responses served request with served := n } =
        requests.map
          (plain responses (Function.update served request n)) := by
  obtain ⟨front, back, rfl⟩ := List.append_of_mem member
  obtain ⟨_, backNodup, disjoint⟩ := List.nodup_append.1 nodup
  have notBack : request ∉ back := (List.nodup_cons.1 backNodup).1
  have notFront : request ∉ front := fun known =>
    disjoint request known request (List.mem_cons_self ..) rfl
  have length : (front.map (plain responses served)).length = front.length :=
    List.length_map ..
  refine ⟨front.length, ?_, ?_, fun n => ?_⟩
  · have missed : ∀ r ∈ front.map (plain responses served),
        r.triggered? request = none := by
      intro r inFront
      obtain ⟨other, known, rfl⟩ := List.mem_map.1 inFront
      refine triggered_apart fun found => notFront ?_
      rwa [← apart other (List.mem_append_left _ known) found]
    rw [List.map_append, first_append missed, length, List.map_cons, first?,
      triggered_self, Nat.zero_add]
  · rw [List.map_append, List.getElem?_append_right (Nat.le_of_eq length),
      length, Nat.sub_self]
    rfl
  · rw [List.map_append, List.set_append_right _ _ (Nat.le_of_eq length),
      length, Nat.sub_self, List.map_append, map_plain_update notFront,
      List.map_cons, List.map_cons, map_plain_update notBack,
      List.set_cons_zero, plain, plain, Function.update_self]

end Rule

/-! One request, and then a whole session. -/

theorem Response.choose_sequential {responses : List Response} {served : Nat}
    (left : served < responses.length) (d : Dice) :
    choose .sequential responses served d = (served, d) := by
  rw [choose]
  split
  · next single =>
      have first : served = 0 := by omega
      rw [first]
  · rw [Nat.mod_eq_of_lt left]

namespace Engine

variable {responses : Text → List Response} {requests : List Text}
  {o : Outlet}

theorem select_sequential {e : Engine} {index : Nat} {rule : Rule}
    {r : Response} (place : e.rules[index]? = some rule)
    (sequential : rule.mapping.manner.selection = .sequential)
    (next : rule.mapping.responses[rule.served]? = some r) :
    e.select index =
      (some r, { e with
        rules := e.rules.set index { rule with served := rule.served + 1 } }) := by
  have left : rule.served < rule.mapping.responses.length :=
    (List.getElem?_eq_some_iff.1 next).1
  have given : rule.mapping.responses.isEmpty = false := by
    rw [List.isEmpty_eq_false_iff]
    exact List.ne_nil_of_length_pos (Nat.zero_lt_of_lt left)
  have chosen := Response.choose_sequential left e.dice
  simp only [select, place, given, sequential, chosen, next,
    Bool.false_eq_true, if_false]

def plain (responses : Text → List Response) (requests : List Text)
    (served : Text → Nat) (board : Board) (dice : Dice) : Engine :=
  ⟨requests.map (Rule.plain responses served), board, dice⟩

/-- A request is answered by its next response and counted as served. -/
theorem respond_plain {served : Text → Nat} {request : Text} {r : Response}
    (nodup : requests.Nodup) (member : request ∈ requests)
    (apart : ∀ other ∈ requests, other <:+: request → other = request)
    (next : (responses request)[served request]? = some r) (board : Board)
    (dice : Dice) :
    (plain responses requests served board dice).respond request =
      (some (Act.plan {} board none r),
        plain responses requests
          (Function.update served request (served request + 1))
          board dice) := by
  obtain ⟨i, found, place, counted⟩ :=
    Rule.first_plain responses served nodup member apart
  have matched : (plain responses requests served board dice).match? request =
      some (i, Rule.plain responses served request, none) := found
  have selected : (plain responses requests served board dice).select i =
      (some r, plain responses requests
        (Function.update served request (served request + 1)) board dice) := by
    rw [select_sequential place rfl next, plain, plain, ← counted]
    rfl
  rw [respond, matched]
  simp only [selected]
  rfl

theorem handle_plain {served : Text → Nat} {request : Text} {r : Response}
    {data : Bytes} (nodup : requests.Nodup) (member : request ∈ requests)
    (apart : ∀ other ∈ requests, other <:+: request → other = request)
    (next : (responses request)[served request]? = some r)
    (free : ¬ Placeholder.Occurs r.said)
    (encodes : Utf8.encode? r.said = some data) (opened : o.Open)
    (board : Board) (dice : Dice) :
    ∃ events board' dice',
      (plain responses requests served board dice).handle o request =
        (.answered, events, plain responses requests
          (Function.update served request (served request + 1))
          board' dice') ∧
      Outlet.written events = data := by
  have answered := respond_plain nodup member apart next (board.apply request)
    dice
  have writes : Placeholder.bytes? (board.apply request) r.said = some data := by
    rw [Placeholder.bytes?, Placeholder.resolve?_of_free _ free, Option.bind_some, encodes]
  have sends : Act.Sends (Act.plan {} (board.apply request) none r) data :=
    Act.sends_plan {} (Placeholder.seamless_free _) r.rendered_none writes
      free
  obtain ⟨events, dice', delivered, written⟩ := deliver_sends sends opened
    (plain responses requests
      (Function.update served request (served request + 1))
      (board.apply request) dice)
  refine ⟨events, board.apply request, dice', ?_, written⟩
  have applied : (plain responses requests served board dice).answer request =
      (some (Act.plan {} (board.apply request) none r),
        plain responses requests
          (Function.update served request (served request + 1))
          (board.apply request) dice) := answered
  rw [handle, applied]
  exact delivered

theorem handleAll_plain (nodup : requests.Nodup) (opened : o.Open)
    {session : List Exchange} {served : Text → Nat}
    (known : ∀ x ∈ session, x.request ∈ requests)
    (apart : ∀ x ∈ session, ∀ other ∈ requests,
      other <:+: x.request → other = x.request)
    (free : ∀ x ∈ session,
      ¬ Placeholder.Occurs (Utf8.decodeEscaping x.reply))
    (left : ∀ request,
      ((responses request).drop (served request)).map Response.said =
        (session.filter fun x => x.request = request).map fun x =>
          Utf8.decodeEscaping x.reply) (board : Board) (dice : Dice) :
    (plain responses requests served board dice).handleAll o
        (session.map (·.request)) =
      session.map fun x => (.answered, x.reply) := by
  -- What is left to serve for each request is what the rest of the session
  -- holds for it; a request takes its own reply off both.
  induction session generalizing served board dice with
  | nil => rfl
  | cons x rest ih =>
      have own := left x.request
      simp only [List.filter_cons, decide_true, if_true, List.map_cons] at own
      obtain ⟨r, more, shape, said, others⟩ := List.map_eq_cons_iff.1 own
      have next : (responses x.request)[served x.request]? = some r := by
        rw [← List.head?_drop, shape, List.head?_cons]
      have inSession : x ∈ x :: rest := List.mem_cons_self ..
      have encodes : Utf8.encode? r.said = some x.reply := by
        rw [said, Utf8.encode?_decodeEscaping]
      obtain ⟨events, board', dice', handled, written⟩ :=
        handle_plain nodup (known x inSession) (apart x inSession) next
          (said ▸ free x inSession) encodes opened board dice
      have later : ∀ y ∈ rest, y ∈ x :: rest :=
        fun y member => List.mem_cons_of_mem _ member
      simp only [List.map_cons, handleAll, handled, written]
      refine congrArg _ (ih (fun y member => known y (later y member))
        (fun y member => apart y (later y member))
        (fun y member => free y (later y member)) ?_ board' dice')
      intro request
      by_cases same : request = x.request
      · rw [same, Function.update_self, ← List.tail_drop, shape, List.tail_cons,
          others]
      · have unchanged := left request
        rw [List.filter_cons_of_neg (by simpa using Ne.symm same)] at unchanged
        rw [Function.update_of_ne same, unchanged]

end Engine

namespace Recorder

/-- Where no request holds another one and no response holds a placeholder, an
engine on the recorded mappings answers the requests of the session, in their
order, with the bytes of the session. -/
theorem replay_exact (events : List Event) (board : Board)
    (dice : Dice) {o : Outlet} (opened : o.Open)
    (apart : ∀ x ∈ exchanges events, ∀ y ∈ exchanges events,
      y.request <:+: x.request → y.request = x.request)
    (free : ∀ x ∈ exchanges events,
      ¬ Placeholder.Occurs (Utf8.decodeEscaping x.reply)) :
    ∃ e, Engine.ofMappings (recorded events) board dice = .ok e ∧
      e.handleAll o ((exchanges events).map (·.request)) =
        (exchanges events).map fun x => (.answered, x.reply) := by
  obtain ⟨answers, filed, answering⟩ := exists_answers events
  have shape := recorded_eq filed answering
  have member : ∀ request,
      request ∈ ((exchanges events).map (·.request)).eraseDups ↔
        ∃ x ∈ exchanges events, x.request = request := by
    intro request
    rw [List.mem_eraseDups, List.mem_map]
  refine ⟨Engine.plain (filedUnder answers)
      ((exchanges events).map (·.request)).eraseDups (fun _ => 0) board dice,
    ?_, Engine.handleAll_plain (nodup_eraseDups _) opened ?_ ?_ free ?_ board
      dice⟩
  · rw [Engine.ofMappings, shape, Rule.all_plain]
    rfl
  · intro x inSession
    exact (member x.request).2 ⟨x, inSession, rfl⟩
  · intro x inSession other known
    obtain ⟨y, also, rfl⟩ := (member other).1 known
    exact apart x inSession y also
  · intro request
    exact answering.filedUnder request

/-- A request comes twice, another between; a character is split between two
reads with a blank request between them, another is cut short, and two braces
stay open. -/
def sample : List Event := [
  .response 0.0 [0xFF],
  .request 0.0 [0x61, 0x62, 0x0A],
  .response 1.0 [0xC3],
  .request 1.0 [0x20],
  .response 2.0 [0xA9, 0x22],
  .request 3.0 [0x63],
  .response 4.0 [0x7B, 0x7B, 0xE2],
  .request 5.0 [0x61, 0x62],
  .response 6.0 [0x00, 0x0A],
  .finish]

theorem replay_sample :
    ∃ e, Engine.ofMappings (recorded sample) { firmware := [] } (.ofList []) =
        .ok e ∧
      e.handleAll .all [text "ab", text "c", text "ab"] =
        [(.answered, [0xC3, 0xA9, 0x22]), (.answered, [0x7B, 0x7B, 0xE2]),
          (.answered, [0x00, 0x0A])] :=
  replay_exact sample { firmware := [] } (.ofList [])
    (Outlet.open_iff.2 (.inl rfl)) (by decide) fun x member =>
      Placeholder.not_occurs_of_unclosed
        ((show ∀ x ∈ exchanges sample, ¬ Placeholder.closing <:+:
          Utf8.decodeEscaping x.reply by decide) x member)

end Recorder

end Breadboard
