import Breadboard.Board.Basic

/-! The stock board, as it is when it is switched on. -/

namespace Breadboard.Board

def stockFirmware : Text := text "5.2.2.0"

def pinCount : Nat := 10

def bare : Board := { firmware := stockFirmware }

def pinNode (i : Nat) : Text × Node :=
  let name := text "GPIO_" ++ Text.ofNat i
  (name, { number := 10 + i, constant := name, kind := text "gpio" })

def stockNodes : Dict Node :=
  let node (number : Int) (name kind : String) (aliases : List String) : Text × Node :=
    (text name, ⟨number, text name, aliases.map fun s => .text (text s), text kind⟩)
  [node 1 "GND" "power" [], node 2 "TOP_R" "power" ["TOP_RAIL"],
    node 3 "BOT_R" "power" ["BOTTOM_RAIL"], node 4 "DAC_0" "dac" [], node 5 "DAC_1" "dac" []] ++
    (List.range pinCount).map pinNode

def stock : Board where
  firmware := stockFirmware
  dac := [(text "0", 3.3), (text "1", 0.0), (text "TOP_RAIL", 3.5), (text "BOTTOM_RAIL", 3.5)]
  adc := [(text "0", ⟨0.0, 8.0⟩), (text "1", ⟨0.0, 8.0⟩), (text "2", ⟨0.0, 8.0⟩),
    (text "3", ⟨0.0, 8.0⟩), (text "4", ⟨0.0, 5.0⟩)]
  sensors := [(text "0", ⟨0.1, 3.3, 3.3, 0.33⟩), (text "1", ⟨0.05, 5.0, 5.0, 0.25⟩)]
  pins := (List.range pinCount).map fun i => (Text.ofNat i, {})
  nodes := stockNodes

end Breadboard.Board
