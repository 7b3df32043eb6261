import Breadboard.Text.Digit
import Breadboard.Text.Display

/-! Command lines. A command line has switches, of which some take a value; long names may be cut
short where that leaves one switch only, and switches of one letter may stand in one argument. -/

namespace Breadboard

inductive ValueFault where
  | notInteger (value : Text)
  | notAmong (value : Text) (choices : List Text)

def ValueFault.message : ValueFault → Text
  | .notInteger value => text "invalid int value: " ++ value.display
  | .notAmong value choices =>
      text "invalid choice: " ++ value.display ++ text " (choose from " ++
        Text.joinWith (text ", ") (choices.map Text.display) ++ text ")"

/-- What a switch that takes a value was given: nothing, no value in its place, or a value. -/
inductive Setting (α : Type) where
  | unset
  | blank
  | value (x : α)

namespace Setting

variable {α : Type}

def ofOption : Option α → Setting α
  | none => unset
  | some x => value x

def toOption : Setting α → Option α
  | value x => some x
  | _ => none

end Setting

/-- What a switch does to the options `σ`. One that takes a value says also what becomes of them
if it is given none. -/
inductive SwitchEffect (σ : Type) where
  | help
  | flag (set : σ → σ)
  | value (set : Text → σ → Except ValueFault σ) (clear : σ → σ)

structure Switch (σ : Type) where
  names : List String
  effect : SwitchEffect σ

inductive CommandLineFault where
  | ambiguous (given : Text) (candidates : List String)
  | noValue (names : List String)
  | extraValue (names : List String) (value : Text)
  | badValue (names : List String) (fault : ValueFault)
  | unrecognized (arguments : List Text)

namespace CommandLineFault

def about (names : List String) (message : Text) : Text :=
  text "argument " ++ Text.joinWith (text "/") (names.map text) ++ text ": " ++ message

def message : CommandLineFault → Text
  | .ambiguous given candidates =>
      text "ambiguous option: " ++ given ++ text " could match " ++
        Text.joinWith (text ", ") (candidates.map text)
  | .noValue names => about names (text "expected one argument")
  | .extraValue names value =>
      about names (text "ignored explicit argument " ++ value.display)
  | .badValue names fault => about names fault.message
  | .unrecognized arguments =>
      text "unrecognized arguments: " ++ Text.joinWith (text " ") arguments

end CommandLineFault

inductive CommandLine (σ : Type) where
  | options (o : σ)
  | help
  | refused (fault : CommandLineFault)

end Breadboard
