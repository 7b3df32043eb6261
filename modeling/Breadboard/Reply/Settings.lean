import Breadboard.Text.Blank
import Breadboard.Text.Display

/-! The device's settings, printed as lines of a section, a key and a value. Sections and keys keep
the order in which they first appear; of a key's values the first is kept. -/

namespace Breadboard

structure Section where
  name : Text
  entries : List (Text × Text)
  deriving DecidableEq

abbrev Settings := List Section

namespace Section

def get? (s : Section) (key : Text) : Option Text := s.entries.lookup key

def add (s : Section) (key value : Text) : Section :=
  if (s.get? key).isSome then s else ⟨s.name, s.entries ++ [(key, value)]⟩

end Section

namespace Settings

inductive Fault where
  | noSection (line : Text)
  | noValue (entry : Text)
  deriving DecidableEq

def Fault.message : Fault → Text
  | .noSection line => text "unable to parse config line " ++ line.display
  | .noValue entry => text "unable to parse config entry line " ++ entry.display

/-- Adds a section, unless it is there already, and changes it. -/
def update (name : Text) (change : Section → Section) : Settings → Settings
  | [] => [change ⟨name, []⟩]
  | s :: rest => if s.name = name then change s :: rest else s :: update name change rest

def find? (settings : Settings) (name : Text) : Option Section :=
  List.find? (·.name = name) settings

/-- The value as it is kept: trimmed, then without one semicolon at its end. -/
def valueOf (s : Text) : Text :=
  let v := s.trim
  if v.endsWith (text ";") then v.dropLast else v

def readLine (settings : Settings) (line : Text) : Settings × Option Fault :=
  match Text.dropLead? (text "\x60[") line.trim with
  | none => (settings, none)
  | some entry =>
      match Text.cut? (text "]") entry with
      | none => (settings, some (.noSection line))
      | some (name, rest) =>
          match Text.cut? (text "=") rest with
          | none => (update name id settings, some (.noValue entry))
          | some (key, value) =>
              (update name (·.add key.trim (valueOf value)) settings, none)

def readLines (settings : Settings) : List Text → Settings × List Fault
  | [] => (settings, [])
  | line :: rest =>
      let (settings, fault) := readLine settings line
      let (settings, faults) := readLines settings rest
      (settings, fault.toList ++ faults)

def read (dump : Text) : Settings × List Fault :=
  readLines [] (Text.splitAt (.char '\n') dump)

end Settings

end Breadboard
