import Breadboard.Proofs.Config.Reading
import Breadboard.Proofs.Response.Shares
import Breadboard.Proofs.Response.Stock

/-! What a configuration that is accepted can be relied on for. An engine can be
made of it, and none of its rules is ever at a loss for a response. -/

namespace Breadboard

/-- A mapping that always has an answer, and a pattern that can be looked for if
it is to be one. -/
structure Mapping.Ready (m : Mapping) : Prop where
  answers : m.responses ≠ []
  readable : m.Readable

namespace Config

/-! What is read is ready. -/

namespace Reading

theorem of_checkPattern {index : Nat} {m m' : Mapping}
    (checked : checkPattern index m = .ok m') : m' = m ∧ m.Readable := by
  rw [checkPattern] at checked
  cases pattern : m.isPattern with
  | true =>
      rw [pattern, if_pos rfl] at checked
      cases read : Regex.read m.request with
      | ok p =>
          rw [read] at checked
          cases checked
          exact ⟨rfl, fun _ => ⟨p, read⟩⟩
      | error cause =>
          rw [read] at checked
          cases cause <;> cases checked
  | false =>
      rw [pattern] at checked
      cases checked
      refine ⟨rfl, fun isPattern => ?_⟩
      rw [pattern] at isPattern
      cases isPattern

theorem ready_of_table {index : Nat} {t : Table} {m : Mapping}
    (read : mapping index (.table t) = .ok m) : m.Ready := by
  rw [mapping] at read
  split at read
  · cases read
  · obtain ⟨rs, _, read⟩ := bind_eq_ok read
    split at read
    · cases read
    · next given =>
        obtain ⟨request, _, read⟩ := bind_eq_ok read
        obtain ⟨section_, _, read⟩ := bind_eq_ok read
        obtain ⟨manner, _, checked⟩ := bind_eq_ok read
        obtain ⟨rfl, readable⟩ := of_checkPattern checked
        refine ⟨?_, readable⟩
        rwa [List.isEmpty_iff] at given

theorem ready_of_mapping {index : Nat} {v : Value} {m : Mapping}
    (read : mapping index v = .ok m) : m.Ready := by
  cases v with
  | table t => exact ready_of_table read
  | text s =>
      rw [mapping] at read
      cases read
  | _ => cases read

theorem ready_of_mappingsFrom {index : Nat} {vs : List Value} {ms : Mappings}
    (read : mappingsFrom index vs = .ok ms) : ∀ m ∈ ms, m.Ready := by
  induction vs generalizing index ms with
  | nil =>
      cases read
      exact nofun
  | cons v rest ih =>
      rw [mappingsFrom] at read
      obtain ⟨m, first, read⟩ := bind_eq_ok read
      obtain ⟨others, later, read⟩ := bind_eq_ok read
      cases read
      exact List.forall_mem_cons.2 ⟨ready_of_mapping first, ih later⟩

end Reading

theorem ready_stock : ∀ m ∈ stock.mappings, m.Ready := by
  intro m member
  refine ⟨?_, Mappings.readable_stock m member⟩
  exact (show ∀ m ∈ Mappings.stock, m.responses ≠ [] by decide) m member

theorem ready_of_mappingsOf {t : Table} {ms : Mappings}
    (read : mappingsOf t = .ok ms) : ∀ m ∈ ms, m.Ready := by
  rw [mappingsOf] at read
  split at read
  · rw [Reading.mappings] at read
    obtain ⟨vs, _, read⟩ := bind_eq_ok read
    exact Reading.ready_of_mappingsFrom read
  · cases read
    exact ready_stock

theorem ready_of_ofTable {t : Table} {c : Config} (read : ofTable t = .ok c) :
    ∀ m ∈ c.mappings, m.Ready := by
  rw [ofTable_eq] at read
  obtain ⟨serial, _, read⟩ := bind_eq_ok read
  obtain ⟨bufferSize, _, read⟩ := bind_eq_ok read
  obtain ⟨baudRate, _, read⟩ := bind_eq_ok read
  obtain ⟨drainTimeout, _, read⟩ := bind_eq_ok read
  obtain ⟨data, _, read⟩ := bind_eq_ok read
  obtain ⟨board, _, read⟩ := bind_eq_ok read
  obtain ⟨ms, mappings, read⟩ := bind_eq_ok read
  cases read
  exact ready_of_mappingsOf mappings

theorem ready_of_ofValue {data : Value} {c : Config}
    (accepted : ofValue data = .ok c) : ∀ m ∈ c.mappings, m.Ready := by
  have ofData : ofTableData data = .ok c → ∀ m ∈ c.mappings, m.Ready := by
    intro read
    rw [ofTableData] at read
    split at read
    · next v _ =>
        cases v with
        | table t => exact ready_of_ofTable read
        | _ => cases read
    · cases read
    · cases read
  cases data with
  | null =>
      cases accepted
      exact ready_stock
  | table entries => exact ofData accepted
  | map entries => exact ofData accepted
  | _ => cases accepted

end Config

/-! How a delivery can fail. -/

inductive DeliveryFault.Textual : DeliveryFault → Prop
  | unencodable (s : Text) : Textual (.unencodable s)
  | endlessReference : Textual .endlessReference
  | endlessValue : Textual .endlessValue

namespace Act

theorem fault_of_mem_sendText {m : Manner} {b : Board} {s : Text}
    {fault : DeliveryFault} (member : .fail fault ∈ sendText m b s) : fault.Textual := by
  rw [sendText] at member
  split at member
  · cases member
  · split at member
    · cases List.mem_singleton.1 member
      exact .endlessValue
    · split at member
      · exact absurd member ((sends_sendBytes m _).fine fault)
      · cases List.mem_singleton.1 member
        exact .unencodable _

theorem fault_of_mem_sendChunks {m : Manner} {b : Board}
    {found : Option Match} {chunks : List Chunk} {held : Text}
    {fault : DeliveryFault} (member : .fail fault ∈ sendChunks m b found held chunks) :
    fault.Textual := by
  induction chunks generalizing held with
  | nil => cases member
  | cons c rest ih =>
      rw [sendChunks] at member
      rcases List.mem_append.1 member with waits | member
      · exact absurd waits ((sends_waiting c.delay c.jitter).fine fault)
      · split at member
        · cases List.mem_singleton.1 member
          exact .endlessReference
        · rcases List.mem_append.1 member with now | later
          · exact fault_of_mem_sendText now
          · exact ih later

theorem fault_of_mem_plan {m : Manner} {b : Board} {found : Option Match}
    {r : Response} {fault : DeliveryFault}
    (member : .fail fault ∈ plan m b found r) : fault.Textual := by
  rcases List.mem_append.1 member with waits | chunks
  · exact absurd waits ((sends_waiting m.delay m.jitter).fine fault)
  · exact fault_of_mem_sendChunks chunks

end Act

theorem Outlet.fault_of_perform {o : Outlet} {acts : List Act} {d : Dice}
    {fault : DeliveryFault} (failed : (o.perform d acts).2.2 = some fault) :
    .fail fault ∈ acts ∨ ∃ n offered, fault = .shortWrite n offered := by
  induction acts generalizing d with
  | nil => cases failed
  | cons act rest ih =>
      have later : ∀ {d}, (o.perform d rest).2.2 = some fault →
          .fail fault ∈ act :: rest ∨ ∃ n offered, fault = .shortWrite n offered :=
        fun failed => (ih failed).imp_left (List.mem_cons_of_mem _)
      cases act with
      | wait delay jitter => exact later failed
      | pause seconds => exact later failed
      | write data =>
          rw [perform] at failed
          split at failed
          · split at failed
            · cases failed
              exact .inr ⟨_, _, rfl⟩
            · exact later failed
          · exact later failed
      | fail first =>
          cases failed
          exact .inl (List.mem_cons_self ..)

/-! Rules of mappings that are ready. -/

/-- A rule that has what it needs to answer: its pattern, if it is to have one,
and responses to choose from, of which any draw chooses one. -/
structure Rule.Serves (r : Rule) : Prop where
  compiled : r.mapping.isPattern = true →
    ∃ p, Regex.read r.mapping.request = .ok p ∧ r.trigger = .pattern p
  weighs : 1 ≤ Response.totalWeight r.mapping.responses
  inRange : ∀ dice, (Response.choose r.mapping.manner.selection
    r.mapping.responses r.served dice).1 < r.mapping.responses.length

theorem Mapping.Ready.serves {m : Mapping} (ready : m.Ready) (served : Nat) :
    (m.rule served).Serves where
  compiled := by
    intro pattern
    obtain ⟨p, read⟩ := ready.readable pattern
    refine ⟨p, read, ?_⟩
    change m.trigger = _
    rw [trigger, if_pos (by exact pattern), read]
    rfl
  weighs := Response.totalWeight_pos ready.answers
  inRange := Response.choose_lt ready.answers _ served

namespace Engine

variable {ms : Mappings} {served : Nat → Nat} {e : Engine}

theorem exists_select {i : Nat} {m : Mapping} (rules : e.rules = ms.rules served)
    (place : ms[i]? = some m) (given : m.responses ≠ []) :
    ∃ r ∈ m.responses, (e.select i).1 = some r := by
  rw [select_eq rules place given]
  have inside := Response.choose_lt given m.manner.selection (served i) e.dice
  exact ⟨_, List.getElem_mem inside, List.getElem?_eq_getElem inside⟩

theorem plan_of_respond (rules : e.rules = ms.rules served)
    (ready : ∀ m ∈ ms, m.Ready) {request : Text} {acts : List Act}
    (answered : (e.respond request).1 = some acts) :
    ∃ m b found r, acts = Act.plan m b found r := by
  have readable : ∀ m ∈ ms, m.Readable := fun m member => (ready m member).readable
  rw [respond] at answered
  cases first : ms.first? request with
  | none =>
      rw [match?_of_none readable rules first] at answered
      cases answered
  | some i =>
      obtain ⟨m, found, finds⟩ := finds_of_first? first
      rw [match?_of_finds readable rules finds] at answered
      have given := (ready m (List.mem_of_getElem? finds.place)).answers
      obtain ⟨r, _, selected⟩ := exists_select rules finds.place given
      dsimp only at answered
      split at answered
      · cases answered
        exact ⟨_, _, _, _, rfl⟩
      · next nothing =>
          rw [nothing] at selected
          cases selected

theorem not_noResponses (rules : e.rules = ms.rules served)
    (ready : ∀ m ∈ ms, m.Ready) (o : Outlet) (request : Text) (i : Nat)
    (s : Text) : (e.handle o request).1 ≠ .failed (.noResponses i s) := by
  intro failed
  have failed : (deliver o (e.answer request).1 (e.answer request).2).1 = _ :=
    failed
  cases answered : (e.answer request).1 with
  | none =>
      rw [answered] at failed
      cases failed
  | some acts =>
      obtain ⟨m, b, found, r, rfl⟩ :=
        plan_of_respond (e := e.apply request) rules ready answered
      rw [answered] at failed
      simp only [deliver] at failed
      split at failed
      · cases failed
      · next fault performed =>
          cases failed
          have faulty := congrArg (·.2.2) performed
          rcases Outlet.fault_of_perform faulty with member | ⟨_, _, short⟩
          · cases Act.fault_of_mem_plan member
          · cases short

/-- An engine can be made of every configuration that is accepted; and whatever
it is then asked, with whatever draws and outlets, each of its rules has its
pattern and a weight to draw from, chooses one of its responses, and so no
request ends for want of one. -/
theorem accepted_serves {data : Value} {c : Config}
    (accepted : Config.ofValue data = .ok c) (dice : Dice) :
    ∃ e, ofMappings c.mappings c.board dice = .ok e ∧ ∀ calls : List Call,
      (e.afterAll calls).rules.map Rule.mapping = c.mappings ∧
      (∀ r ∈ (e.afterAll calls).rules, r.Serves) ∧
      (∀ i m, c.mappings[i]? = some m →
        ∃ r ∈ m.responses, ((e.afterAll calls).select i).1 = some r) ∧
      ∀ o request i s,
        ((e.afterAll calls).handle o request).1 ≠ .failed (.noResponses i s) := by
  have ready := Config.ready_of_ofValue accepted
  have readable : ∀ m ∈ c.mappings, m.Readable :=
    fun m member => (ready m member).readable
  refine ⟨⟨c.mappings.rules fun _ => 0, c.board, dice⟩, ?_, fun calls => ?_⟩
  · rw [ofMappings, Rule.all_of_readable readable]
    rfl
  have rules := rules_afterAll readable
    (e := ⟨c.mappings.rules fun _ => 0, c.board, dice⟩) rfl calls
  refine ⟨?_, ?_, ?_, not_noResponses rules ready⟩
  · rw [rules]
    apply List.ext_getElem?
    intro i
    rw [List.getElem?_map, Mappings.getElem?_rules, Option.map_map]
    exact Option.map_id'
  · intro r member
    rw [rules] at member
    obtain ⟨i, place⟩ := List.mem_iff_getElem?.1 member
    rw [Mappings.getElem?_rules] at place
    obtain ⟨m, known, rfl⟩ := Option.map_eq_some_iff.1 place
    exact (ready m (List.mem_of_getElem? known)).serves _
  · intro i m place
    exact exists_select rules place (ready m (List.mem_of_getElem? place)).answers

/-- A pattern with two responses to draw from, neither of which has a weight
that is positive. -/
def weightless : Value :=
  .table [(text "mappings", .list [.table [
    (text "request", .text (text "a+")), (text "isRegex", .bool true),
    (text "responses", .list [
      .table [(text "response", .text (text "1")), (text "weight", .int 0)],
      .table [(text "response", .text (text "2")), (text "weight", .int (-3))]]),
    (text "responseConfig",
      .table [(text "selectionMode", .text (text "weighted"))])]])]

def weightlessMapping : Mapping :=
  { request := text "a+", isPattern := true
    responses := [.ofText (text "1") 1, .ofText (text "2") (-3)]
    manner := { selection := .weighted } }

def demands : List Call := [⟨text "baa", .outlet (.most 0)⟩,
  ⟨text "b", .outlet .all⟩, ⟨text "a", .broken (.ofList [5])⟩]

theorem weightless_serves :
    let c : Config := { Config.stock with mappings := [weightlessMapping] }
    Config.ofValue weightless = .ok c ∧
      Response.totalWeight weightlessMapping.responses = 2 ∧
      ∃ e, ofMappings c.mappings c.board (.ofList [-1]) = .ok e ∧
        (e.afterAll demands).rules.map Rule.mapping = [weightlessMapping] ∧
        (∀ r ∈ (e.afterAll demands).rules, r.Serves) ∧
        (∃ r ∈ weightlessMapping.responses,
          ((e.afterAll demands).select 0).1 = some r) ∧
        ((e.afterAll demands).handle .all (text "aa")).1 ≠
          .failed (.noResponses 0 (text "a+")) := by
  intro c
  have accepted : Config.ofValue weightless = .ok c := rfl
  obtain ⟨e, made, serves⟩ := accepted_serves accepted (.ofList [-1])
  obtain ⟨mappings, rules, selects, fine⟩ := serves demands
  exact ⟨accepted, rfl, e, made, mappings, rules, selects 0 _ rfl,
    fine .all (text "aa") 0 (text "a+")⟩

end Engine

end Breadboard
