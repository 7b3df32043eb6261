import Breadboard.Proofs.Board.Invariant
import Breadboard.Proofs.Emulator.Order
import Breadboard.Proofs.Response.Stock

/-! What an engine comes to. Its board follows from the requests alone, and so do its
counts for given rules: neither knows what was drawn, what was written and what failed.
The same holds of an engine in a device, where answers may stall and be broken off. -/

namespace Breadboard

namespace Rule

def chosen (index : Nat) (rules : List Rule) : List Rule :=
  match rules[index]? with
  | none => rules
  | some r =>
      if r.mapping.responses.isEmpty then rules
      else rules.set index { r with served := r.served + 1 }

def asked (rules : List Rule) (request : Text) : List Rule :=
  match first? request 0 rules with
  | none => rules
  | some (index, _, _) => chosen index rules

end Rule

namespace Engine

theorem rules_select (index : Nat) (e : Engine) :
    (e.select index).2.rules = Rule.chosen index e.rules := by
  rw [select, Rule.chosen]
  cases e.rules[index]? with
  | none => rfl
  | some r =>
      dsimp only
      split <;> rfl

theorem rules_answer (request : Text) (e : Engine) :
    (e.answer request).2.rules = Rule.asked e.rules request := by
  have same : (e.apply request).match? request = Rule.first? request 0 e.rules := rfl
  rw [answer, respond, same, Rule.asked]
  cases Rule.first? request 0 e.rules with
  | none => rfl
  | some found =>
      obtain ⟨index, r, shown⟩ := found
      have rules := rules_select index (e.apply request)
      dsimp only
      split
      · next selected =>
          rw [selected] at rules
          exact rules
      · next selected =>
          rw [selected] at rules
          exact rules

/-- What requests make of an engine, whatever else happens to it. -/
structure Comes (e : Engine) (requests : List Text) (e' : Engine) : Prop where
  board : e'.board = e.board.applyAll requests
  rules : e'.rules = requests.foldl Rule.asked e.rules

theorem Comes.refl (e : Engine) : e.Comes [] e := ⟨rfl, rfl⟩

/-- One request comes before the others. -/
theorem Comes.cons {e e' last : Engine} {request : Text} {requests : List Text}
    (board : e'.board = e.board.apply request) (rules : e'.rules = Rule.asked e.rules request)
    (later : e'.Comes requests last) : e.Comes (request :: requests) last where
  board := by rw [later.board, board]; rfl
  rules := by rw [later.rules, rules]; rfl

theorem comes_afterAll (e : Engine) (calls : List Call) :
    e.Comes (calls.map Call.request) (e.afterAll calls) := by
  induction calls generalizing e with
  | nil => exact .refl e
  | cons call calls ih =>
      refine .cons (board_undergo e call) ?_ (ih (e.undergo call))
      rw [rules_undergo, rules_answer]

theorem Comes.boards {e f e' f' : Engine} {requests : List Text} (comes : e.Comes requests e')
    (comes' : f.Comes requests f') (same : e.board = f.board) : e'.board = f'.board := by
  rw [comes.board, comes'.board, same]

theorem Comes.counters {e f e' f' : Engine} {requests : List Text}
    (comes : e.Comes requests e') (comes' : f.Comes requests f')
    (same : e.rules = f.rules) : e'.counters = f'.counters := by
  rw [Engine.counters, Engine.counters, comes.rules, comes'.rules, same]

/-- Engines that are made of the same mappings have the same rules. -/
theorem rules_ofMappings {ms : Mappings} {board board' : Board} {dice dice' : Dice}
    {e f : Engine} (made : ofMappings ms board dice = .ok e)
    (made' : ofMappings ms board' dice' = .ok f) : e.rules = f.rules := by
  obtain ⟨rules, built, rfl⟩ := map_eq_ok made
  obtain ⟨rules', built', rfl⟩ := map_eq_ok made'
  exact Except.ok.inj (built.symm.trans built')

/-- After each of the same requests, however they are delivered, the boards of two engines
are what the commands in the requests have made of them, whatever the rules are; and from
the same rules the counts are the same, whatever the boards and the dice are. -/
theorem independent_of_delivery (e f : Engine) (calls others : List Call)
    (same : calls.map Call.request = others.map Call.request) (n : Nat) :
    let requests := (calls.map Call.request).take n
    (e.afterAll (calls.take n)).board = e.board.applyAll requests ∧
      (f.afterAll (others.take n)).board = f.board.applyAll requests ∧
      (e.board = f.board →
        (e.afterAll (calls.take n)).board = (f.afterAll (others.take n)).board) ∧
      (e.rules = f.rules →
        (e.afterAll (calls.take n)).counters = (f.afterAll (others.take n)).counters) := by
  intro requests
  have comes := comes_afterAll e (calls.take n)
  have comes' := comes_afterAll f (others.take n)
  rw [List.map_take] at comes comes'
  rw [← same] at comes'
  exact ⟨comes.board, comes'.board, comes.boards comes', comes.counters comes'⟩

def errands : List Text := [text "a connect(A, B)", text "c", text "a", text "bb"]

def shortly : List Call := errands.map fun request =>
  ⟨request, if request.length < 3 then .outlet (.most 0) else .broken (.ofList [1])⟩

def wholly : List Call := errands.map (⟨·, .outlet .all⟩)

theorem errands_independent :
    let idle : Engine := ⟨[], Board.stock, .ofList []⟩
    let busy : Engine := ⟨several.rules fun _ => 0, Board.stock, .ofList [1]⟩
    let other : Engine := ⟨several.rules fun _ => 0, Board.bare, .ofList [2, 3]⟩
    (idle.afterAll (shortly.take 3)).board = (busy.afterAll (wholly.take 3)).board ∧
      (busy.afterAll (wholly.take 3)).counters =
        (other.afterAll (shortly.take 3)).counters ∧
      (busy.afterAll (wholly.take 3)).counters = [(0, 2)] := by
  intro idle busy other
  have same : shortly.map Call.request = wholly.map Call.request := rfl
  have made : ofMappings several Board.stock (.ofList [1]) = .ok busy := rfl
  have made' : ofMappings several Board.bare (.ofList [2, 3]) = .ok other := rfl
  obtain ⟨_, _, boards, _⟩ := independent_of_delivery idle busy shortly wholly same 3
  obtain ⟨_, _, _, counters⟩ := independent_of_delivery busy other wholly shortly same.symm 3
  refine ⟨boards rfl, counters (rules_ofMappings made made'), ?_⟩
  rw [Engine.counters, (comes_afterAll busy _).rules]
  decide +kernel

end Engine

/-! An engine in a device. -/

theorem Service.Chain.comes {first last : Engine} {services : List Service}
    (chain : Chain first services last) : first.Comes (services.map (·.request)) last := by
  induction services generalizing first with
  | nil =>
      cases chain
      exact .refl _
  | cons x rest ih =>
      obtain ⟨rfl, dice, later⟩ := chain
      refine .cons ?_ ?_ (ih later)
      · exact Engine.board_respond x.request (x.engine.apply x.request)
      · exact Engine.rules_answer x.request x.engine

namespace VirtualDevice

/-- Whatever turns a device takes, and wherever answers stall or are given up, its engine
comes to what the requests that were handed to it make of it. -/
theorem comes_of_turns {d d₀ : VirtualDevice} {h h₀ : Host}
    (started : d.start h = (.ok (), d₀, h₀)) {now : VirtualDevice × Host}
    (turns : Turns (d₀, h₀) now) :
    ∃ events, now.1.dispatch.events = d₀.dispatch.events ++ events ∧
      d₀.dispatch.engine.Comes (events.filterMap DispatchEvent.handed?)
        now.1.dispatch.engine := by
  obtain ⟨s, tells, _⟩ := turns.orderly (orderly_start started)
  refine ⟨s.events, tells.events, ?_⟩
  rw [tells.handed]
  exact tells.engines.comes

end VirtualDevice

end Breadboard
