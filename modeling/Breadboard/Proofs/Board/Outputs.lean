import Breadboard.Proofs.Board.Channels

/-! Outputs read back. What a channel's name stands for does not change when
an output is set, so a voltage that was set is read under every name of its
output, and under no other. -/

namespace Breadboard

namespace Board

variable {b : Board} {channel : Text} {v : Float}

/-- The numbers of the rails are no channels of their own. -/
structure Unnumbered (b : Board) : Prop where
  top : b.dac.has (text "2") = false
  bottom : b.dac.has (text "3") = false

instance (b : Board) : Decidable b.Unnumbered :=
  decidable_of_iff (b.dac.has (text "2") = false ∧ b.dac.has (text "3") = false)
    ⟨fun ⟨top, bottom⟩ => ⟨top, bottom⟩, fun unnumbered => ⟨unnumbered.top, unnumbered.bottom⟩⟩

def setDacs (settings : List (Text × Float)) (b : Board) : Board :=
  settings.foldl (fun b setting => (b.setDac setting.1 setting.2).2) b

/-! Which output a name stands for. -/

@[simp] theorem output_output (b : Board) (channel : Text) :
    b.output (b.output channel) = b.output channel := by
  conv_lhs => rw [output]
  split
  · rfl
  · next new => rw [rail?_output (Bool.eq_false_iff.2 new), Option.getD_none]

theorem output_congr {b' : Board} (same : b'.dac.has channel = b.dac.has channel) :
    b'.output channel = b.output channel := by
  rw [output, output, same]

theorem output_put (b : Board) (channel other : Text) (v : Float) :
    output { b with dac := b.dac.put (b.output channel) v } other = b.output other := by
  by_cases there : b.dac.has other = true
  · rw [output, if_pos (Dict.has_put v there), output, if_pos there]
  · by_cases same : other = b.output channel
    · rw [same, output_output, output, if_pos]
      rw [Dict.has, Dict.get?_put, if_pos rfl]
      rfl
    · apply output_congr
      rw [Dict.has, Dict.get?_put, if_neg same, Dict.has]

/-! Setting one channel. -/

theorem setDac_of_volts (volts : Volts v) (b : Board) (channel : Text) :
    b.setDac channel v = (true, { b with dac := b.dac.put (b.output channel) v }) := by
  rw [setDac, if_pos (inRange_iff.2 volts)]

theorem setDac_of_not_volts (beyond : ¬ Volts v) (b : Board) (channel : Text) :
    b.setDac channel v = (false, b) := by
  rw [setDac, if_neg (mt inRange_iff.1 beyond)]

@[simp] theorem output_setDac (b : Board) (channel other : Text) (v : Float) :
    (b.setDac channel v).2.output other = b.output other := by
  by_cases volts : Volts v
  · rw [setDac_of_volts volts]
    exact output_put b channel other v
  · rw [setDac_of_not_volts volts]

theorem dacVoltage?_setDac (volts : Volts v) (b : Board) (channel other : Text) :
    (b.setDac channel v).2.dacVoltage? other =
      if b.output other = b.output channel then some v else b.dacVoltage? other := by
  rw [dacVoltage?, output_setDac, setDac_of_volts volts, Dict.get?_put, dacVoltage?]

/-! The numbers of the rails. -/

theorem Unnumbered.setDac (unnumbered : b.Unnumbered) (channel : Text) (v : Float) :
    (b.setDac channel v).2.Unnumbered := by
  by_cases volts : Volts v
  · have absent : ∀ number, (rail? number).isSome = true → b.dac.has number = false →
        (b.dac.put (b.output channel) v).has number = false := by
      intro number isNumber absent
      rw [Dict.has, Dict.get?_put, if_neg (output_ne_number isNumber absent channel).symm]
      exact absent
    rw [setDac_of_volts volts]
    exact ⟨absent _ (by decide) unnumbered.top, absent _ (by decide) unnumbered.bottom⟩
  · rw [setDac_of_not_volts volts]
    exact unnumbered

theorem Unnumbered.setDacs (unnumbered : b.Unnumbered) (settings : List (Text × Float)) :
    (b.setDacs settings).Unnumbered := by
  induction settings generalizing b with
  | nil => exact unnumbered
  | cons setting rest ih => exact ih (unnumbered.setDac setting.1 setting.2)

theorem dacVoltage?_of_rail {number rail : Text} (named : rail? number = some rail)
    (absent : b.dac.has number = false) : b.dacVoltage? number = b.dacVoltage? rail := by
  have stays : b.output rail = rail := by
    rw [output, rail?_rail named, Option.getD_none, ite_self]
  rw [dacVoltage?, dacVoltage?, stays, output, absent, named]
  rfl

theorem Unnumbered.same_top (unnumbered : b.Unnumbered) :
    b.dacVoltage? (text "2") = b.dacVoltage? (text "TOP_RAIL") :=
  dacVoltage?_of_rail (by decide) unnumbered.top

theorem Unnumbered.same_bottom (unnumbered : b.Unnumbered) :
    b.dacVoltage? (text "3") = b.dacVoltage? (text "BOTTOM_RAIL") :=
  dacVoltage?_of_rail (by decide) unnumbered.bottom

theorem unnumbered_stock : stock.Unnumbered := by decide

/-- Channels read back what was set, whatever name they were set by. Where the
numbers of the rails are no channels, they stay names of the rails however the
outputs are set, as they do on the stock board. On any board a voltage is taken
exactly if it is in range, and is then read under all names of the output and
no others; else nothing changes. -/
theorem outputs_read_back (b : Board) :
    (b.Unnumbered → ∀ settings : List (Text × Float),
      (b.setDacs settings).Unnumbered ∧
      (b.setDacs settings).dacVoltage? (text "2") =
        (b.setDacs settings).dacVoltage? (text "TOP_RAIL") ∧
      (b.setDacs settings).dacVoltage? (text "3") =
        (b.setDacs settings).dacVoltage? (text "BOTTOM_RAIL")) ∧
    (∀ settings : List (Text × Float), (stock.setDacs settings).Unnumbered) ∧
    ∀ (channel other : Text) (v : Float),
      ((b.setDac channel v).1 = true ↔ Volts v) ∧
      (b.setDac channel v).2.output other = b.output other ∧
      ((b.setDac channel v).1 = true →
        (b.setDac channel v).2.dacVoltage? other =
          if b.output other = b.output channel then some v else b.dacVoltage? other) ∧
      ((b.setDac channel v).1 = false → (b.setDac channel v).2 = b) := by
  refine ⟨fun unnumbered settings => ?_, unnumbered_stock.setDacs, fun channel other v => ?_⟩
  · have still := unnumbered.setDacs settings
    exact ⟨still, still.same_top, still.same_bottom⟩
  · have same := output_setDac b channel other v
    by_cases volts : Volts v
    · have reads := dacVoltage?_setDac volts b channel other
      have done : (b.setDac channel v).1 = true := by rw [setDac_of_volts volts]
      refine ⟨iff_of_true done volts, same, fun _ => reads, fun refused => ?_⟩
      rw [done] at refused
      cases refused
    · rw [setDac_of_not_volts volts]
      exact ⟨iff_of_false Bool.false_ne_true volts, rfl, nofun, fun _ => rfl⟩

/-- A board with an output of its own under the number of a rail, and a rail
that is not there yet. -/
def crossed : Board :=
  { stock with dac := [(text "2", 1.5), (text "TOP_RAIL", 2.5)] }

/-- On the stock board a rail is set by its number; on the other one the number
is a channel by itself, and the rail that is missing appears under its name. -/
theorem rails_read_back :
    stock.Unnumbered ∧
      (stock.setDacs [(text "2", -7.5), (text "new", 8.5)]).Unnumbered ∧
      (stock.setDacs [(text "2", -7.5)]).dacVoltage? (text "TOP_RAIL") = some (-7.5) ∧
      (crossed.setDac (text "3") (-8.0)).1 = true ∧
      (crossed.setDac (text "3") (-8.0)).2.dacVoltage? (text "BOTTOM_RAIL") = some (-8.0) ∧
      (crossed.setDac (text "2") 7.0).2.dacVoltage? (text "TOP_RAIL") = some 2.5 ∧
      (crossed.setDac (text "2") (0.0 / 0.0)).1 = false ∧
      (crossed.setDac (text "2") (0.0 / 0.0)).2 = crossed := by
  have stays := (outputs_read_back stock).1 unnumbered_stock
  have set := (outputs_read_back crossed).2.2
  have lowest : (crossed.setDac (text "3") (-8.0)).1 = true := by decide +kernel
  have seven : (crossed.setDac (text "2") 7.0).1 = true := by decide +kernel
  have noNumber : (crossed.setDac (text "2") (0.0 / 0.0)).1 = false := by decide +kernel
  refine ⟨unnumbered_stock, (stays _).1, ?_, lowest, ?_, ?_, noNumber, ?_⟩
  · decide +kernel
  · exact (set (text "3") (text "BOTTOM_RAIL") (-8.0)).2.2.1 lowest
  · exact (set (text "2") (text "TOP_RAIL") 7.0).2.2.1 seven
  · exact (set (text "2") (text "2") (0.0 / 0.0)).2.2.2 noNumber

end Board

end Breadboard
