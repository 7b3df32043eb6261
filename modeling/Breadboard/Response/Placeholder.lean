import Breadboard.Board.Basic
import Breadboard.Number.Numeral
import Breadboard.Text.Replace
import Breadboard.Text.Word

/-! Placeholders in a response: names in double braces that stand for the state of the board. The
kinds are resolved one after another, each in one pass over the whole text. -/

namespace Breadboard

namespace Placeholder

def opening : Text := text "\x7b\x7b"

def closing : Text := text "\x7d\x7d"

def lead (word : String) : Text := opening ++ text word ++ text ":"

def named? (word : String) (value : Text → Option Text) : Text.Recogniser := fun s => do
  let (name, s) := (← Text.dropLead? (lead word) s).span CodePoint.isWord
  if name.isEmpty || !Text.startsWith s closing then none
  else return (value name, (lead word).length + name.length + closing.length)

def paired? (word : String) (value : Text → Text → Option Text) : Text.Recogniser := fun s => do
  let (one, s) := (← Text.dropLead? (lead word) s).span fun c =>
    c != .char ':' && c != .char '\x7d'
  let (other, s) := (← Text.dropLead? (text ":") s).span fun c => c != .char '\x7d'
  if one.isEmpty || other.isEmpty || !Text.startsWith s closing then none
  else return (value one other, (lead word).length + one.length + 1 + other.length + closing.length)

def volts (v : Option Float) : Text := fixedText 2 (v.getD 0.0)

def kinds (b : Board) : List Text.Recogniser := [
  named? "dac_voltage" fun name => some (volts (b.dacVoltage? name) ++ text "V"),
  named? "dac_value" fun name => some (volts (b.dacVoltage? name)),
  named? "adc_voltage" fun name => some (volts (b.adcVoltage? name) ++ text "V"),
  named? "gpio_value" fun name => writeInteger? ((b.pinValue? name).getD 0),
  paired? "is_connected" fun x y => some (text (if b.isConnected x y then "true" else "false"))]

def pass? (kinds : List Text.Recogniser) (s : Text) : Option Text :=
  kinds.foldlM (fun s at? => s.replaceBy? at?) s

/-- The text with the board's values in place of its placeholders. There is none where a pin that
is asked for has a value of too many digits. -/
def resolve? (b : Board) (s : Text) : Option Text := pass? (kinds b) s

def lastOpening? : Text → Option (Text × Text)
  | [] => none
  | c :: s =>
      match lastOpening? s with
      | some (before, rest) => some (c :: before, rest)
      | none => if Text.startsWith (c :: s) opening then some ([], c :: s) else none

/-- Cuts a text before a placeholder that may go on in what comes after it. -/
def splitOpen (s : Text) : Text × Text :=
  let byBrace : Text × Text :=
    if s.endsWith (text "\x7b") then (s.dropLast, text "\x7b") else (s, [])
  match lastOpening? s with
  | some (before, rest) => if rest.contains closing then byBrace else (before, rest)
  | none => byBrace

end Placeholder

end Breadboard
