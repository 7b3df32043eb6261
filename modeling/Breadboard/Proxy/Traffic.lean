import Breadboard.Data.Segment
import Breadboard.Number.Shortest
import Breadboard.Text.Display

/-! Traffic between a client and a device, counted and shown: each packet as text and in rows of
hexadecimal. -/

namespace Breadboard

inductive Direction where
  | toDevice
  | fromDevice
  deriving DecidableEq, Repr

structure Traffic where
  toDevice : Nat := 0
  fromDevice : Nat := 0

namespace Direction

def label : Direction → Text
  | toDevice => text "CLIENT→DEVICE"
  | fromDevice => text "DEVICE→CLIENT"

def color : Direction → Text
  | toDevice => text "\x1b[36m"
  | fromDevice => text "\x1b[33m"

end Direction

namespace Traffic

def plain : Text := text "\x1b[0m"

def rowSize : Nat := 16

def hexWidth : Nat := 48

def shownByte (b : UInt8) : CodePoint :=
  if 32 ≤ b.toNat ∧ b.toNat < 127 then .char (.ofNat b.toNat) else .char '.'

def hexByte (b : UInt8) : Text := ((Text.hex 2 b.toNat)).map fun
  | .char c => .char c.toUpper
  | c => c

def hexRow (data : Bytes) : Text :=
  let hex := Text.joinWith (text " ") (data.map hexByte)
  hex ++ List.replicate (hexWidth - hex.length) (.char ' ') ++ text " | " ++ data.map shownByte

def rows (data : Bytes) : List Bytes := if data.isEmpty then [] else segments rowSize data

def packet (number : Nat) (d : Direction) (data : Bytes) : Text :=
  let head := d.color ++ text "━━━ #" ++ Text.ofNat number ++ text " " ++ d.label ++ text " (" ++
    Text.ofNat data.length ++ text " bytes) ━━━" ++ plain
  let body := text "  " ++ (Utf8.decodeReplacing data).display
  Text.joinWith (text "\n") (head :: body ::
    (rows data).map fun row => text "  \x1b[37m" ++ hexRow row ++ plain)

def count (t : Traffic) : Direction → Nat
  | .toDevice => t.toDevice
  | .fromDevice => t.fromDevice

def add (d : Direction) (t : Traffic) : Traffic :=
  match d with
  | .toDevice => { t with toDevice := t.toDevice + 1 }
  | .fromDevice => { t with fromDevice := t.fromDevice + 1 }

def report (d : Direction) (data : Bytes) (t : Traffic) : Text × Traffic :=
  let t := t.add d
  (packet (t.count d) d data, t)

def summary (seconds : Float) (t : Traffic) : List Text :=
  [text "\n\x1b[36m━━━ Session Summary ━━━" ++ plain,
    text "Duration: " ++ fixedText 1 seconds ++ text "s",
    text "Requests: " ++ Text.ofNat t.toDevice,
    text "Responses: " ++ Text.ofNat t.fromDevice]

end Traffic

end Breadboard
