import Breadboard.Board.Basic
import Breadboard.Number.Numeral
import Breadboard.Text.Word

/-! Commands in a request that change the board. Of each kind the first one in the request is
obeyed, in the order of `apply`; arguments that make no sense are passed over. -/

namespace Breadboard

def Text.dropPast? (c : Char) (s : Text) : Option Text := Text.dropLead? [.char c] s.trimStart

namespace Command

def argument? (s : Text) : Option Text := (Text.cut? (text ")") s).map (·.1)

/-- A node's name in its place between two marks, without the blanks around it; of blanks alone the
last one is the name. -/
def nodeName? (s : Text) : Option Text :=
  match s.trim with
  | [] => s.getLast?.map fun c => [c]
  | name => some name

def setting? (s : Text) : Option (Text × Text) :=
  let (channel, rest) := s.trimStart.span CodePoint.isWord
  if channel.isEmpty then none
  else do
    let value ← argument? (← Text.dropPast? ',' rest)
    return (channel, value.trim)

def pair? (s : Text) : Option (Text × Text) := do
  let (first, rest) ← Text.cut? (text ",") s
  if first.elem (.char ')') then none
  else return (← nodeName? first, ← nodeName? (← argument? rest))

def nothing? (s : Text) : Option Unit := (Text.dropPast? ')' s).map fun _ => ()

/-- The first place where a word is followed by arguments of the right form. -/
def first? {α : Type} (word : Text) (arguments? : Text → Option α) : Text → Option α
  | [] => none
  | c :: s =>
      ((Text.dropLead? word (c :: s)).bind arguments?).orElse fun _ => first? word arguments? s

/-- The same, but the word must not begin inside another. -/
def firstWhole? {α : Type} (word : Text) (arguments? : Text → Option α) :
    (inWord : Bool) → Text → Option α
  | _, [] => none
  | inWord, c :: s =>
      let found := if inWord then none else (Text.dropLead? word (c :: s)).bind arguments?
      found.orElse fun _ => firstWhole? word arguments? c.isWord s

def setDac? (request : Text) : Option (Text × Text) := first? (text "set_dac(") setting? request

def setPin? (request : Text) : Option (Text × Text) := first? (text "gpio_set(") setting? request

def connect? (request : Text) : Option (Text × Text) :=
  firstWhole? (text "connect(") pair? false request

def disconnect? (request : Text) : Option (Text × Text) :=
  firstWhole? (text "disconnect(") pair? false request

def clear? (request : Text) : Option Unit := firstWhole? (text "clear(") nothing? false request

end Command

namespace Board

/-- Sets the output that a request names, if it gives a number of volts. -/
def applySetDac (request : Text) (b : Board) : Board :=
  match Command.setDac? request with
  | some (channel, value) =>
      match readFloat? value with
      | some volts => (b.setDac channel volts).2
      | none => b
  | none => b

def applySetPin (request : Text) (b : Board) : Board :=
  match Command.setPin? request with
  | some (pin, value) =>
      match readInteger value with
      | .ok i => (b.setPin pin i).2
      | .error _ => b
  | none => b

def applyConnect (request : Text) (b : Board) : Board :=
  match Command.connect? request with
  | some (x, y) => (b.connect x y).2
  | none => b

def applyDisconnect (request : Text) (b : Board) : Board :=
  match Command.disconnect? request with
  | some (x, y) => (b.disconnect x y).2
  | none => b

def applyClear (request : Text) (b : Board) : Board :=
  match Command.clear? request with
  | some _ => b.clearConnections
  | none => b

def apply (request : Text) (b : Board) : Board :=
  applyClear request <| applyDisconnect request <| applyConnect request <|
    applySetPin request <| applySetDac request b

end Board

end Breadboard
