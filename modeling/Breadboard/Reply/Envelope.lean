import Breadboard.Reply.Ansi
import Breadboard.Text.Blank

/-! The envelope of an interpreter's reply: the prompt with the echoed command, the output, and
the prompt again, in lines that end with a carriage return and a line feed. -/

namespace Breadboard.Envelope

inductive Fault where
  | fewLines (count : Nat)
  | noOutput
  deriving DecidableEq, Repr

def Fault.message : Fault → Text
  | .fewLines count =>
      text "unexpected command output format: expected 3 lines, got " ++ Text.ofNat count
  | .noOutput => text "unexpected command output format: no output lines after filtering"

def prompt : Text := text "Python>"

def lines : Text → List Text
  | [] => [[]]
  | .char '\r' :: .char '\n' :: s => [] :: lines s
  | c :: s =>
      match lines s with
      | [] => [[c]]
      | line :: rest => (c :: line) :: rest

/-- A line of output: not blank, and no prompt. -/
def isOutput (line : Text) : Bool := !line.isEmpty && !line.startsWith prompt

def output (reply : Text) : List Text :=
  ((lines reply).map Text.trim).filter isOutput

def unwrap (raw : Text) : Except Fault Text :=
  let reply := Ansi.strip raw
  if (lines reply).length < 3 then .error (.fewLines (lines reply).length)
  else if output reply = [] then .error .noOutput
  else .ok (Text.joinWith (text "\n") (output reply))

def voltage (raw : Text) : Except Fault Text :=
  (unwrap raw).map fun found =>
    let v := found.trim
    if v.endsWith (text "V") then v else v ++ text "V"

end Breadboard.Envelope
