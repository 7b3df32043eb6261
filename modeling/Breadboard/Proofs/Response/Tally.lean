import Breadboard.Proofs.Response.Delivery
import Mathlib.Data.List.Induction
import Mathlib.Logic.Function.Basic

/-! What an engine counts. A mapping's count is the number of the requests that
it was the first to match, however they were delivered, and it alone says which
of the responses is next. -/

namespace Breadboard

/-! Which mapping answers a request. -/

namespace Mapping

def match? (m : Mapping) (request : Text) : Option (Option Match) :=
  if m.isPattern then
    match Regex.read m.request with
    | .ok p => (p.search? request).map some
    | .error _ => none
  else if request.contains m.request then some none
  else none

def trigger (m : Mapping) : Trigger :=
  if m.isPattern then .pattern ((Regex.read m.request).toOption.getD default)
  else .literal m.request

/-- The rule of a mapping that has been chosen `served` times. -/
def rule (served : Nat) (m : Mapping) : Rule := ⟨m, m.trigger, served⟩

def Readable (m : Mapping) : Prop :=
  m.isPattern = true → ∃ p, Regex.read m.request = .ok p

theorem triggered?_rule {m : Mapping} (readable : m.Readable) (served : Nat)
    (request : Text) :
    (m.rule served).triggered? request = m.match? request := by
  rw [Rule.triggered?, rule, trigger, match?]
  cases pattern : m.isPattern with
  | true =>
      obtain ⟨p, read⟩ := readable pattern
      simp only [read, if_true]
      rfl
  | false => rfl

end Mapping

namespace Mappings

def first? (ms : Mappings) (request : Text) : Option Nat :=
  ms.findIdx? fun m => (m.match? request).isSome

/-- How many of some requests the mapping in a place is the first to match. -/
def asked (ms : Mappings) (requests : List Text) (i : Nat) : Nat :=
  requests.countP fun request => ms.first? request = some i

/-- How many of some requests the mapping in a place is chosen for: all that it
is the first to match, unless it has nothing to answer. -/
def tally (ms : Mappings) (requests : List Text) (i : Nat) : Nat :=
  if (ms[i]?).any (·.responses.isEmpty) then 0 else ms.asked requests i

def rules (ms : Mappings) (served : Nat → Nat) : List Rule :=
  ms.mapIdx fun i m => m.rule (served i)

end Mappings

theorem Rule.of_eq_ok {index : Nat} {m : Mapping} {r : Rule}
    (made : Rule.of index m = .ok r) : m.Readable ∧ r = m.rule 0 := by
  rw [Rule.of] at made
  cases pattern : m.isPattern with
  | true =>
      rw [pattern, if_pos rfl] at made
      cases read : Regex.read m.request with
      | error fault =>
          rw [read] at made
          cases made
      | ok p =>
          rw [read] at made
          cases made
          refine ⟨fun _ => ⟨p, read⟩, ?_⟩
          simp only [Mapping.rule, Mapping.trigger, pattern, read, if_true]
          rfl
  | false =>
      rw [pattern] at made
      cases made
      refine ⟨fun isPattern => ?_, ?_⟩
      · rw [pattern] at isPattern
        cases isPattern
      · simp only [Mapping.rule, Mapping.trigger, pattern, Bool.false_eq_true,
          if_false]

theorem Rule.all_eq_ok {index : Nat} {ms : Mappings} {rs : List Rule}
    (made : Rule.all index ms = .ok rs) :
    (∀ m ∈ ms, m.Readable) ∧ rs = ms.rules fun _ => 0 := by
  induction ms generalizing index rs with
  | nil =>
      cases made
      exact ⟨fun _ member => (nomatch member), rfl⟩
  | cons m ms ih =>
      rw [Rule.all] at made
      cases first : Rule.of index m with
      | error fault =>
          rw [first] at made
          cases made
      | ok r =>
          cases rest : Rule.all (index + 1) ms with
          | error fault =>
              rw [first, rest] at made
              cases made
          | ok others =>
              rw [first, rest] at made
              cases made
              obtain ⟨readable, rfl⟩ := Rule.of_eq_ok first
              obtain ⟨readables, rfl⟩ := ih rest
              refine ⟨?_, ?_⟩
              · intro other member
                rcases List.mem_cons.1 member with rfl | later
                · exact readable
                · exact readables other later
              · rw [Mappings.rules, Mappings.rules, List.mapIdx_cons]

theorem Rule.all_of_readable {ms : Mappings} (readable : ∀ m ∈ ms, m.Readable)
    (index : Nat) : Rule.all index ms = .ok (ms.rules fun _ => 0) := by
  induction ms generalizing index with
  | nil => rfl
  | cons m ms ih =>
      have rest := ih (fun other member => readable other (List.mem_cons_of_mem m member))
        (index + 1)
      have first : Rule.of index m = .ok (m.rule 0) := by
        rw [Rule.of, Mapping.rule, Mapping.trigger]
        cases pattern : m.isPattern with
        | true =>
            obtain ⟨p, read⟩ := readable m List.mem_cons_self pattern
            simp only [if_true, read]
            rfl
        | false => rfl
      rw [Rule.all, first, rest, Mappings.rules, Mappings.rules, List.mapIdx_cons]
      rfl

namespace Mappings

variable {ms : Mappings} {served : Nat → Nat} {request : Text} {i : Nat}
  {m : Mapping}

theorem getElem?_rules (ms : Mappings) (served : Nat → Nat) (i : Nat) :
    (ms.rules served)[i]? = (ms[i]?).map (·.rule (served i)) := by
  rw [rules, List.getElem?_mapIdx]

/-- The first rule that is triggered belongs to the first mapping that
matches. -/
theorem first?_rules (readable : ∀ m ∈ ms, m.Readable) (served : Nat → Nat)
    (request : Text) (index : Nat) :
    Rule.first? request index (ms.rules served) =
      (ms.first? request).bind fun i => (ms[i]?).bind fun m =>
        (m.match? request).map fun found =>
          (index + i, m.rule (served i), found) := by
  induction ms generalizing served index with
  | nil => rfl
  | cons m ms ih =>
      have readables : ∀ m ∈ ms, m.Readable :=
        fun other member => readable other (List.mem_cons_of_mem _ member)
      have own := Mapping.triggered?_rule (readable m (List.mem_cons_self ..))
        (served 0) request
      rw [rules, List.mapIdx_cons, Rule.first?, own, first?,
        List.findIdx?_cons]
      cases own : m.match? request with
      | some found =>
          simp only [Option.isSome_some, if_true, Option.bind_some,
            List.getElem?_cons_zero, Nat.add_zero, own, Option.map_some]
      | none =>
          have later := ih readables (fun i => served (i + 1)) (index + 1)
          rw [rules] at later
          rw [later]
          simp only [Option.isSome_none, Bool.false_eq_true, if_false,
            Option.bind_map, first?, Function.comp_def,
            List.getElem?_cons_succ]
          simp only [Nat.add_assoc, Nat.add_comm 1]

theorem set_rules (found : ms[i]? = some m) (served : Nat → Nat) (n : Nat) :
    (ms.rules served).set i (m.rule n) =
      ms.rules (Function.update served i n) := by
  apply List.ext_getElem?
  intro j
  rw [List.getElem?_set, getElem?_rules, getElem?_rules]
  by_cases same : i = j
  · subst same
    have inside : i < (ms.rules served).length := by
      rw [rules, List.length_mapIdx]
      exact (List.getElem?_eq_some_iff.1 found).1
    rw [if_pos rfl, if_pos inside, found, Function.update_self]
    rfl
  · rw [if_neg same, Function.update_of_ne (Ne.symm same)]

theorem tally_concat_of_answers {requests : List Text}
    (first : ms.first? request = some i) (place : ms[i]? = some m)
    (given : m.responses ≠ []) :
    ms.tally (requests ++ [request]) =
      Function.update (ms.tally requests) i (ms.tally requests i + 1) := by
  funext j
  by_cases same : j = i
  · subst same
    have answers : m.responses.isEmpty = false := by simpa using given
    rw [Function.update_self]
    simp [tally, asked, place, answers, first]
  · have other : ms.first? request ≠ some j := by
      rw [first]
      exact fun equality => same (Option.some.inj equality).symm
    rw [Function.update_of_ne same]
    simp [tally, asked, other]

theorem tally_concat_of_silent {requests : List Text}
    (silent : ∀ i m, ms.first? request = some i → ms[i]? = some m →
      m.responses = []) :
    ms.tally (requests ++ [request]) = ms.tally requests := by
  funext j
  by_cases first : ms.first? request = some j
  · cases place : ms[j]? with
    | none =>
        obtain ⟨inside, _⟩ := List.findIdx?_eq_some_iff_getElem.1 first
        rw [List.getElem?_eq_getElem inside] at place
        cases place
    | some m => simp [tally, place, silent j m first place]
  · simp [tally, asked, first]

end Mappings

theorem Response.choose_turn (responses : List Response) (served : Nat)
    (d : Dice) :
    (choose .sequential responses served d).1 = served % responses.length := by
  rw [choose.eq_def]
  split
  · next single => rw [single, Nat.mod_one]
  · rfl

namespace Engine

variable {ms : Mappings} {served : Nat → Nat} {request : Text} {e : Engine}
  {i : Nat} {m : Mapping} {found : Option Match}

structure Finds (ms : Mappings) (request : Text) (i : Nat) (m : Mapping)
    (found : Option Match) : Prop where
  first : ms.first? request = some i
  place : ms[i]? = some m
  found : m.match? request = some found

theorem finds_of_first? (first : ms.first? request = some i) :
    ∃ m found, Finds ms request i m found := by
  obtain ⟨inside, found, _⟩ := List.findIdx?_eq_some_iff_getElem.1 first
  obtain ⟨found, matched⟩ := Option.isSome_iff_exists.1 found
  exact ⟨ms[i], found, first, List.getElem?_eq_getElem inside, matched⟩

theorem match?_of_finds (readable : ∀ m ∈ ms, m.Readable)
    (rules : e.rules = ms.rules served) (finds : Finds ms request i m found) :
    e.match? request = some (i, m.rule (served i), found) := by
  rw [match?, rules, Mappings.first?_rules readable, finds.first]
  simp only [Option.bind_some, finds.place, finds.found, Option.map_some,
    Nat.zero_add]

theorem match?_of_none (readable : ∀ m ∈ ms, m.Readable)
    (rules : e.rules = ms.rules served) (missed : ms.first? request = none) :
    e.match? request = none := by
  rw [match?, rules, Mappings.first?_rules readable, missed]
  rfl

theorem select_eq (rules : e.rules = ms.rules served)
    (place : ms[i]? = some m) (given : m.responses ≠ []) :
    e.select i =
      let chosen := Response.choose m.manner.selection m.responses (served i)
        e.dice
      (m.responses[chosen.1]?, { e with
        rules := ms.rules (Function.update served i (served i + 1))
        dice := chosen.2 }) := by
  have own : e.rules[i]? = some (m.rule (served i)) := by
    rw [rules, Mappings.getElem?_rules, place]
    rfl
  have answers : m.responses.isEmpty = false := by simpa using given
  rw [← Mappings.set_rules place, ← rules]
  simp only [select, own, Mapping.rule, answers, Bool.false_eq_true, if_false]

theorem select_silent (rules : e.rules = ms.rules served)
    (place : ms[i]? = some m) (silent : m.responses = []) :
    e.select i = (none, e) := by
  have own : e.rules[i]? = some (m.rule (served i)) := by
    rw [rules, Mappings.getElem?_rules, place]
    rfl
  simp only [select, own, Mapping.rule, silent, List.isEmpty_nil, if_true]

/-! One request. -/

theorem rules_respond (request : Text) {requests : List Text}
    (readable : ∀ m ∈ ms, m.Readable)
    (rules : e.rules = ms.rules (ms.tally requests)) :
    (e.respond request).2.rules = ms.rules (ms.tally (requests ++ [request])) := by
  rw [respond]
  cases first : ms.first? request with
  | none =>
      rw [match?_of_none readable rules first,
        Mappings.tally_concat_of_silent (by simp [first])]
      exact rules
  | some i =>
      obtain ⟨m, found, finds⟩ := finds_of_first? first
      rw [match?_of_finds readable rules finds]
      dsimp only
      by_cases silent : m.responses = []
      · have still : ∀ j other, ms.first? request = some j →
            ms[j]? = some other → other.responses = [] := by
          intro j other first' place
          rw [first] at first'
          cases first'
          rw [finds.place] at place
          cases place
          exact silent
        rw [select_silent rules finds.place silent,
          Mappings.tally_concat_of_silent still]
        exact rules
      · rw [select_eq rules finds.place silent,
          Mappings.tally_concat_of_answers first finds.place silent]
        dsimp only
        split
        · next selected =>
            rw [← (Prod.mk.inj selected).2]
        · next selected =>
            rw [← (Prod.mk.inj selected).2]

/-- Where responses take turns, the count says whose turn it is. -/
theorem respond_turn (readable : ∀ m ∈ ms, m.Readable)
    (rules : e.rules = ms.rules served) (finds : Finds ms request i m found)
    (turns : m.manner.selection = .sequential ∨ m.responses.length = 1)
    {r : Response} (next : m.responses[served i % m.responses.length]? = some r) :
    (e.respond request).1 = some (Act.plan m.manner e.board found r) := by
  have given : m.responses ≠ [] := by
    intro empty
    rw [empty] at next
    cases next
  have chosen : (Response.choose m.manner.selection m.responses (served i)
      e.dice).1 = served i % m.responses.length := by
    rcases turns with sequential | single
    · rw [sequential, Response.choose_turn]
    · rw [Response.choose.eq_def, if_pos single, single, Nat.mod_one]
  rw [respond, match?_of_finds readable rules finds]
  dsimp only
  rw [select_eq rules finds.place given]
  dsimp only
  rw [chosen, next]
  rfl

/-! Whole runs. -/

/-- How a delivery goes: an outlet takes what it takes, or the delivery breaks
off, whatever the dice have come to by then. -/
inductive Course where
  | outlet (o : Outlet)
  | broken (dice : Dice)

structure Call where
  request : Text
  course : Course

def undergo (e : Engine) (call : Call) : Engine :=
  match call.course with
  | .outlet o => (e.handle o call.request).2.2
  | .broken dice => { (e.answer call.request).2 with dice }

def afterAll (e : Engine) (calls : List Call) : Engine :=
  calls.foldl undergo e

theorem rules_deliver (o : Outlet) (plan : Option (List Act)) (e : Engine) :
    (e.deliver o plan).2.2.rules = e.rules := by
  cases plan with
  | none => rfl
  | some acts =>
      simp only [deliver]
      split <;> rfl

theorem rules_undergo (e : Engine) (call : Call) :
    (e.undergo call).rules = (e.answer call.request).2.rules := by
  rw [undergo]
  split
  · exact rules_deliver ..
  · rfl

theorem rules_afterAll (readable : ∀ m ∈ ms, m.Readable)
    (rules : e.rules = ms.rules fun _ => 0) (calls : List Call) :
    (e.afterAll calls).rules =
      ms.rules (ms.tally (calls.map Call.request)) := by
  induction calls using List.reverseRecOn with
  | nil =>
      have fresh : ms.tally [] = fun _ => 0 := by
        funext i
        simp [Mappings.tally, Mappings.asked]
      rw [List.map_nil, fresh]
      exact rules
  | append_singleton calls call ih =>
      rw [afterAll, List.foldl_append, List.map_append]
      have one := rules_respond call.request
        (e := (e.afterAll calls).apply call.request) readable ih
      exact (rules_undergo _ call).trans one

theorem mem_counters {e : Engine} {i n : Nat} :
    (i, n) ∈ e.counters ↔ 0 < n ∧ ∃ r, e.rules[i]? = some r ∧ r.served = n := by
  rw [counters, List.mem_filter, List.mem_iff_getElem?]
  simp only [decide_eq_true_eq, List.getElem?_mapIdx, Option.map_eq_some_iff,
    Prod.mk.injEq]
  constructor
  · rintro ⟨⟨j, r, found, rfl, counted⟩, positive⟩
    exact ⟨positive, r, found, counted⟩
  · rintro ⟨positive, r, found, counted⟩
    exact ⟨⟨i, r, found, rfl, counted⟩, positive⟩

theorem asked_eq_tally {requests : List Text} (place : ms[i]? = some m)
    (given : m.responses ≠ []) : ms.tally requests i = ms.asked requests i := by
  have answers : m.responses.isEmpty = false := by simpa using given
  simp [Mappings.tally, place, answers]

/-- Whatever is requested and however the deliveries go, a mapping that has
responses counts the requests that it is the first to match, and no other
mapping counts; and where its responses take turns, the request that comes
after `k` such requests is answered by the one in place `k`, round and round. -/
theorem counts_and_turns {board : Board} {dice : Dice}
    (made : ofMappings ms board dice = .ok e) (calls : List Call) :
    (∀ i n, (i, n) ∈ (e.afterAll calls).counters ↔
      0 < n ∧ n = ms.asked (calls.map Call.request) i ∧
        ∃ m, ms[i]? = some m ∧ m.responses ≠ []) ∧
    ∀ request i m found, Finds ms request i m found → m.responses ≠ [] →
      (m.manner.selection = .sequential ∨ m.responses.length = 1) →
      ∃ r, m.responses[ms.asked (calls.map Call.request) i %
            m.responses.length]? = some r ∧
        ∀ o, (e.afterAll calls).handle o request =
          deliver o (some (Act.plan m.manner
              ((e.afterAll calls).board.apply request) found r))
            ((e.afterAll calls).answer request).2 := by
  obtain ⟨rules, built, rfl⟩ := map_eq_ok made
  obtain ⟨readable, rfl⟩ := Rule.all_eq_ok built
  have counted := rules_afterAll (e := ⟨ms.rules fun _ => 0, board, dice⟩)
    readable rfl calls
  constructor
  · intro i n
    rw [mem_counters, counted, Mappings.getElem?_rules]
    constructor
    · rintro ⟨positive, r, own, rfl⟩
      obtain ⟨m, place, rfl⟩ := Option.map_eq_some_iff.1 own
      have given : m.responses ≠ [] := by
        intro silent
        simp [Mapping.rule, Mappings.tally, place, silent] at positive
      exact ⟨positive, asked_eq_tally place given, m, place, given⟩
    · rintro ⟨positive, rfl, m, place, given⟩
      rw [place]
      exact ⟨positive, _, rfl, asked_eq_tally place given⟩
  · intro request i m found finds given turns
    have least : ms.asked (calls.map Call.request) i % m.responses.length <
        m.responses.length := Nat.mod_lt _ (List.length_pos_iff.2 given)
    obtain ⟨r, next⟩ : ∃ r, m.responses[ms.asked (calls.map Call.request) i %
        m.responses.length]? = some r := ⟨_, List.getElem?_eq_getElem least⟩
    refine ⟨r, next, fun o => ?_⟩
    rw [← asked_eq_tally finds.place given] at next
    have plan := respond_turn
      (e := (afterAll ⟨ms.rules fun _ => 0, board, dice⟩ calls).apply request)
      readable counted finds turns next
    rw [handle]
    exact congrArg (deliver o · _) plan

/-- Two responses that take turns, of which one cannot be written; a pattern
whose responses are drawn; a request that nothing answers. -/
def several : Mappings := [
  { request := text "a", responses := [.ofText (text "1") 1,
      ⟨[{ data := [.lone ⟨0, by decide⟩] }], 1⟩, .ofText (text "3") 1] },
  { request := text "b+", isPattern := true
    responses := [.ofText (text "4") 1, .ofText (text "5") 1]
    manner := { selection := .random } },
  { request := text "c" }]

def fresh : Engine := ⟨several.rules fun _ => 0, { firmware := [] }, .ofList []⟩

def muddle : List Call := [⟨text "a", .outlet (.most 0)⟩,
  ⟨text "cab", .outlet .all⟩, ⟨text "bb", .outlet .all⟩,
  ⟨text "c", .outlet .all⟩, ⟨text "bc", .broken (.ofList [7])⟩,
  ⟨text "x", .outlet .mute⟩, ⟨text "xa", .outlet .all⟩]

theorem muddle_counts :
    ofMappings several { firmware := [] } (.ofList []) = .ok fresh ∧
      (0, 3) ∈ (fresh.afterAll muddle).counters ∧
      (1, 2) ∈ (fresh.afterAll muddle).counters ∧
      (∀ n, (2, n) ∉ (fresh.afterAll muddle).counters) ∧
      Finds several (text "a") 0 several[0] none ∧
      ∃ r, r = .ofText (text "1") 1 ∧ ∀ o,
        (fresh.afterAll muddle).handle o (text "a") =
          deliver o (some (Act.plan {}
              ((fresh.afterAll muddle).board.apply (text "a")) none r))
            ((fresh.afterAll muddle).answer (text "a")).2 := by
  have made : ofMappings several { firmware := [] } (.ofList []) = .ok fresh :=
    rfl
  have finds : Finds several (text "a") 0 several[0] none := ⟨rfl, rfl, rfl⟩
  have asked : several.asked (muddle.map Call.request) 0 = 3 ∧
      several.asked (muddle.map Call.request) 1 = 2 := by decide +kernel
  obtain ⟨counted, turns⟩ := counts_and_turns made muddle
  obtain ⟨r, next, handled⟩ := turns (text "a") 0 _ none finds
    (List.cons_ne_nil _ _) (.inl rfl)
  rw [asked.1] at next
  cases next
  refine ⟨made, (counted 0 3).2 ⟨by decide, asked.1.symm, _, rfl, List.cons_ne_nil _ _⟩,
    (counted 1 2).2 ⟨by decide, asked.2.symm, _, rfl, List.cons_ne_nil _ _⟩, ?_, finds, _,
    rfl, handled⟩
  intro n member
  obtain ⟨_, _, m, place, given⟩ := (counted 2 n).1 member
  cases place
  exact given rfl

end Engine

end Breadboard
