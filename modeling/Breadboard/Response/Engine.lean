import Breadboard.Board.Command
import Breadboard.Response.Delivery

/-! The engine: a board, and rules that say how it answers. A request first changes the board by
the commands in it; then the first rule that it triggers answers. -/

namespace Breadboard

inductive Trigger where
  | literal (s : Text)
  | pattern (r : Regex)

structure Rule where
  mapping : Mapping
  trigger : Trigger
  served : Nat := 0

structure RuleFault where
  index : Nat
  request : Text
  cause : Regex.Fault
  deriving DecidableEq

def RuleFault.message (fault : RuleFault) : Text :=
  text "Invalid regex in mapping " ++ Text.ofNat fault.index ++ text " (" ++
    fault.request.display ++ text "): "

namespace Rule

def of (index : Nat) (m : Mapping) : Except RuleFault Rule :=
  if m.isPattern then
    match Regex.read m.request with
    | .ok r => .ok ⟨m, .pattern r, 0⟩
    | .error cause => .error ⟨index, m.request, cause⟩
  else .ok ⟨m, .literal m.request, 0⟩

def all (index : Nat) : Mappings → Except RuleFault (List Rule)
  | [] => .ok []
  | m :: ms => do return (← of index m) :: (← all (index + 1) ms)

def triggered? (r : Rule) (request : Text) : Option (Option Match) :=
  match r.trigger with
  | .literal s => if request.contains s then some none else none
  | .pattern p => (p.search? request).map some

def first? (request : Text) : (index : Nat) → List Rule → Option (Nat × Rule × Option Match)
  | _, [] => none
  | index, r :: rest =>
      match r.triggered? request with
      | some found => some (index, r, found)
      | none => first? request (index + 1) rest

end Rule

structure Engine where
  rules : List Rule
  board : Board
  dice : Dice

namespace Engine

def ofMappings (ms : Mappings) (board : Board) (dice : Dice) : Except RuleFault Engine :=
  (Rule.all 0 ms).map fun rules => ⟨rules, board, dice⟩

def apply (request : Text) (e : Engine) : Engine := { e with board := e.board.apply request }

def match? (e : Engine) (request : Text) : Option (Nat × Rule × Option Match) :=
  Rule.first? request 0 e.rules

def counters (e : Engine) : List (Nat × Nat) :=
  (e.rules.mapIdx fun i r => (i, r.served)).filter fun (_, n) => 0 < n

/-- The next response of a rule, if it has any; this counts as serving it. -/
def select (index : Nat) (e : Engine) : Option Response × Engine :=
  match e.rules[index]? with
  | none => (none, e)
  | some r =>
      if r.mapping.responses.isEmpty then (none, e)
      else
        let (i, dice) :=
          Response.choose r.mapping.manner.selection r.mapping.responses r.served e.dice
        (r.mapping.responses[i]?,
          { e with rules := e.rules.set index { r with served := r.served + 1 }, dice })

/-- The plan of the answer to a request, whose commands are not applied here; there is none if no
rule is triggered. -/
def respond (request : Text) (e : Engine) : Option (List Act) × Engine :=
  match e.match? request with
  | none => (none, e)
  | some (index, r, found) =>
      match e.select index with
      | (some response, e) => (some (Act.plan r.mapping.manner e.board found response), e)
      | (none, e) => (some [.fail (.noResponses index r.mapping.request)], e)

def answer (request : Text) (e : Engine) : Option (List Act) × Engine :=
  (e.apply request).respond request

inductive Verdict where
  | answered
  | missed
  | failed (fault : DeliveryFault)
  deriving DecidableEq

def deliver (o : Outlet) (plan : Option (List Act)) (e : Engine) :
    Verdict × List Outlet.Event × Engine :=
  match plan with
  | none => (.missed, [], e)
  | some acts =>
      match o.perform e.dice acts with
      | (events, dice, none) => (.answered, events, { e with dice })
      | (events, dice, some fault) => (.failed fault, events, { e with dice })

def handle (o : Outlet) (request : Text) (e : Engine) : Verdict × List Outlet.Event × Engine :=
  let (plan, e) := e.answer request
  e.deliver o plan

end Engine

end Breadboard
