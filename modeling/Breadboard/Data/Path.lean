import Breadboard.Text.Utf8

/-! Paths as steps. A place is where steps lead: the names on the way to it, from the folder in use
or from the root. -/

namespace Breadboard

/-- The names on the way; it begins with the empty name at the root, and with `..` outside the
folder in use. -/
abbrev Place := List Text

namespace Place

def up : Text := text ".."

def root : Place := [[]]

def isAround (p : Place) : Bool := p.all (· = up)

def parent (p : Place) : Place :=
  if p = root then root else if p.isAround then p ++ [up] else p.dropLast

def path (p : Place) : Text :=
  if p = [] then text "."
  else if p = root then text "/"
  else Text.joinWith (text "/") p

end Place

namespace Path

def steps (path : Text) : Place × List Text :=
  match path with
  | .char '/' :: rest => (Place.root, Text.splitAt (.char '/') rest)
  | path => ([], Text.splitAt (.char '/') path)

def isStay (step : Text) : Bool := step.isEmpty || step = text "."

/-- The place that a path leads to if all its names are those of folders. -/
def place (path : Text) : Place :=
  let (start, steps) := steps path
  steps.foldl (fun (p : Place) step =>
    if isStay step then p else if step = Place.up then p.parent else p ++ [step]) start

def mostNameBytes : Nat := 255

def mostBytes : Nat := 4095

end Path

end Breadboard
