import Breadboard.Proofs.Recording.Replay
import Breadboard.Proofs.Response.Tally

/-! Which of the recorded mappings a recorded request comes to. It is the first
one whose request is a part of it, and that need not be its own. -/

namespace Breadboard

open Recorder

namespace Mapping

variable {m : Mapping} {request : Text}

theorem match?_of_infix (literal : m.isPattern = false)
    (part : m.request <:+: request) : m.match? request = some none := by
  have found : request.contains m.request = true := Text.contains_iff.2 part
  simp only [match?, literal, found, Bool.false_eq_true, if_false, if_true]

theorem isSome_match? (literal : m.isPattern = false) (request : Text) :
    (m.match? request).isSome = request.contains m.request := by
  simp only [match?, literal, Bool.false_eq_true, if_false]
  split
  · next found => exact found.symm
  · next missing => simpa using missing

end Mapping

namespace Mappings

variable {ms : Mappings} {i : Nat} {m : Mapping}

/-- A mapping in front of the one in this place has a request that is a part of
its request. -/
def Shadowed (ms : Mappings) (i : Nat) : Prop :=
  ∃ j earlier own, j < i ∧ ms[j]? = some earlier ∧ ms[i]? = some own ∧
    earlier.request <:+: own.request

theorem first?_literal (literal : ∀ m ∈ ms, m.isPattern = false)
    (request : Text) :
    ms.first? request = ms.findIdx? fun m => request.contains m.request := by
  induction ms with
  | nil => rfl
  | cons m rest ih =>
      obtain ⟨own, others⟩ := List.forall_mem_cons.1 literal
      rw [first?] at ih ⊢
      rw [List.findIdx?_cons, List.findIdx?_cons, ih others,
        Mapping.isSome_match? own]

theorem first?_own_iff (literal : ∀ m ∈ ms, m.isPattern = false)
    (place : ms[i]? = some m) :
    ms.first? m.request = some i ↔ ¬ ms.Shadowed i := by
  obtain ⟨inside, rfl⟩ := List.getElem?_eq_some_iff.1 place
  rw [first?_literal literal, List.findIdx?_eq_some_iff_getElem]
  constructor
  · rintro ⟨_, _, missed⟩ ⟨j, earlier, own, before, there, here, part⟩
    obtain ⟨_, rfl⟩ := List.getElem?_eq_some_iff.1 there
    obtain rfl := Option.some.inj (place.symm.trans here)
    exact missed j before (Text.contains_iff.2 part)
  · intro clear
    refine ⟨inside, Text.contains_iff.2 List.infix_rfl, ?_⟩
    intro j before found
    exact clear ⟨j, _, _, before,
      List.getElem?_eq_getElem (Nat.lt_trans before inside), place,
      Text.contains_iff.1 found⟩

theorem asked_repeated {request : Text} (first : ms.first? request = some i)
    {requests : List Text} (same : ∀ other ∈ requests, other = request) :
    ms.asked requests i = requests.length := by
  rw [asked, List.countP_eq_length]
  intro other member
  rw [same other member, first, decide_eq_true_eq]

end Mappings

namespace Recorder

variable {events : List Event} {m : Mapping}

theorem plain_of_mem_recorded (member : m ∈ recorded events) :
    m.isPattern = false ∧ m.manner = {} := by
  obtain ⟨answers, filed, answering⟩ := exists_answers events
  rw [recorded_eq filed answering] at member
  obtain ⟨request, _, rfl⟩ := List.mem_map.1 member
  exact ⟨rfl, rfl⟩

theorem readable_of_mem_recorded (member : m ∈ recorded events) :
    m.Readable := by
  intro pattern
  rw [(plain_of_mem_recorded member).1] at pattern
  cases pattern

end Recorder

namespace Engine

variable {ms : Mappings} {request : Text} {i : Nat} {m : Mapping} {e : Engine}

theorem finds_of_infix (literal : m.isPattern = false)
    (place : ms[i]? = some m) (part : m.request <:+: request)
    (first : ms.first? request = some i) : Finds ms request i m none where
  first := first
  place := place
  found := Mapping.match?_of_infix literal part

/-- Where responses take turns and one request is repeated, each repetition is
answered by the next response, whatever came of those before. -/
theorem handle_repeated (readable : ∀ m ∈ ms, m.Readable)
    (rules : e.rules = ms.rules fun _ => 0)
    (finds : Finds ms request i m none)
    (turns : m.manner.selection = .sequential) {calls : List Call}
    (same : ∀ call ∈ calls, call.request = request) {r : Response}
    (next : m.responses[calls.length]? = some r) (o : Outlet) :
    (e.afterAll calls).handle o request =
      deliver o (some (Act.plan m.manner
          ((e.afterAll calls).board.apply request) none r))
        ((e.afterAll calls).answer request).2 := by
  have inside : calls.length < m.responses.length :=
    (List.getElem?_eq_some_iff.1 next).1
  have given : m.responses ≠ [] :=
    List.ne_nil_of_length_pos (Nat.zero_lt_of_lt inside)
  have repeated : ∀ other ∈ calls.map Call.request, other = request := by
    intro other member
    obtain ⟨call, known, rfl⟩ := List.mem_map.1 member
    exact same call known
  have served : ms.tally (calls.map Call.request) i = calls.length := by
    rw [asked_eq_tally finds.place given,
      Mappings.asked_repeated finds.first repeated, List.length_map]
  have turn : m.responses[ms.tally (calls.map Call.request) i %
      m.responses.length]? = some r := by
    rw [served, Nat.mod_eq_of_lt inside, next]
  have plan := respond_turn (e := (e.afterAll calls).apply request) readable
    (rules_afterAll readable rules calls) finds (.inl turns) turn
  rw [handle]
  exact congrArg (deliver o · _) plan

end Engine

namespace Recorder

/-- Whatever an engine on the recorded mappings has been asked before, it takes
a recorded request to the first mapping whose request is a part of it. That is
the request's own mapping just where no mapping in front shadows it, and then
each repetition of the request brings the next of its recorded responses. -/
theorem own_mapping_iff (events : List Event) (board : Board) (dice : Dice) :
    ∃ e, Engine.ofMappings (recorded events) board dice = .ok e ∧
      ∀ i m, (recorded events)[i]? = some m → ∀ calls,
        ((e.afterAll calls).match? m.request).map Prod.fst =
          (recorded events).findIdx?
            (fun other => m.request.contains other.request) ∧
        ((∃ served, (e.afterAll calls).match? m.request =
            some (i, m.rule served, none)) ↔
          ¬ (recorded events).Shadowed i) ∧
        (¬ (recorded events).Shadowed i →
          (∀ call ∈ calls, call.request = m.request) →
          ∀ r, m.responses[calls.length]? = some r → ∀ o,
            (e.afterAll calls).handle o m.request =
              Engine.deliver o (some (Act.plan m.manner
                  ((e.afterAll calls).board.apply m.request) none r))
                ((e.afterAll calls).answer m.request).2) := by
  have literal : ∀ m ∈ recorded events, m.isPattern = false :=
    fun m member => (plain_of_mem_recorded member).1
  have readable : ∀ m ∈ recorded events, m.Readable :=
    fun m member => readable_of_mem_recorded member
  refine ⟨⟨(recorded events).rules fun _ => 0, board, dice⟩, ?_, ?_⟩
  · rw [Engine.ofMappings, Rule.all_of_readable readable]
    rfl
  intro i m place calls
  have member : m ∈ recorded events := List.mem_of_getElem? place
  have rules := Engine.rules_afterAll readable
    (e := ⟨(recorded events).rules fun _ => 0, board, dice⟩) rfl calls
  refine ⟨?_, ?_, ?_⟩
  · rw [← Mappings.first?_literal literal]
    cases first : (recorded events).first? m.request with
    | none => rw [Engine.match?_of_none readable rules first, Option.map_none]
    | some j =>
        obtain ⟨other, found, finds⟩ := Engine.finds_of_first? first
        rw [Engine.match?_of_finds readable rules finds, Option.map_some]
  · rw [← Mappings.first?_own_iff literal place]
    constructor
    · rintro ⟨served, matched⟩
      cases first : (recorded events).first? m.request with
      | none =>
          rw [Engine.match?_of_none readable rules first] at matched
          cases matched
      | some j =>
          obtain ⟨other, found, finds⟩ := Engine.finds_of_first? first
          rw [Engine.match?_of_finds readable rules finds] at matched
          cases matched
          rfl
    · intro first
      exact ⟨_, Engine.match?_of_finds readable rules
        (Engine.finds_of_infix (literal m member) place List.infix_rfl first)⟩
  · intro clear same r next o
    have first := (Mappings.first?_own_iff literal place).2 clear
    have turns : m.manner.selection = .sequential := by
      rw [(plain_of_mem_recorded member).2]
    exact Engine.handle_repeated readable rfl
      (Engine.finds_of_infix (literal m member) place List.infix_rfl first)
      turns same next o

def overlap : List Event := [
  .request 0.0 [0x61], .response 0.0 [0x31],
  .request 0.0 [0x61, 0x62], .response 0.0 [0x32]]

theorem overlap_apart :
    (recorded overlap).map (·.request) = [text "a", text "ab"] ∧
      ¬ (recorded overlap).Shadowed 0 ∧ (recorded overlap).Shadowed 1 ∧
      ∃ e, Engine.ofMappings (recorded overlap) { firmware := [] }
          (.ofList []) = .ok e ∧
        (∃ served, e.match? (text "a") =
          some (0, (recorded overlap)[0].rule served, none)) ∧
        (¬ ∃ served, e.match? (text "ab") =
          some (1, (recorded overlap)[1].rule served, none)) ∧
        ∃ r, r.said = text "1" ∧ ∀ o,
          e.handle o (text "a") =
            Engine.deliver o (some (Act.plan {} (e.board.apply (text "a"))
              none r)) (e.answer (text "a")).2 := by
  have clear : ¬ (recorded overlap).Shadowed 0 := by
    rintro ⟨j, _, _, before, _⟩
    exact Nat.not_lt_zero j before
  have shadowed : (recorded overlap).Shadowed 1 :=
    ⟨0, _, _, Nat.zero_lt_one, rfl, rfl, by decide⟩
  obtain ⟨e, made, own⟩ := own_mapping_iff overlap { firmware := [] }
    (.ofList [])
  obtain ⟨_, reached, answered⟩ := own 0 _ rfl []
  obtain ⟨_, missed, _⟩ := own 1 _ rfl []
  exact ⟨by decide, clear, shadowed, e, made, reached.2 clear,
    fun found => missed.1 found shadowed, _, by decide +kernel,
    answered clear nofun _ rfl⟩

/-- The later request comes to the mapping of the earlier one, and what was
recorded for it is out of its reach. -/
theorem overlap_shadowed :
    (recorded overlap)[1]?.map (·.request) = some (text "ab") ∧
      ∃ e, Engine.ofMappings (recorded overlap) { firmware := [] }
          (.ofList []) = .ok e ∧
        ((e.match? (text "ab")).map Prod.fst = some 0) ∧
        e.handleAll .all [text "ab", text "ab"] =
          [(.answered, [0x31]), (.answered, [0x31])] := by
  exact ⟨by decide, _, rfl, by decide, by decide +kernel⟩

end Recorder

end Breadboard
