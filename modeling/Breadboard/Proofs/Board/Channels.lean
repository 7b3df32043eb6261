import Breadboard.Proofs.Board.Invariant

/-! The outputs of a board that came from the stock one. All four are there,
and the numbers of the rails are not channels of their own. -/

namespace Breadboard

namespace Command

def words : List String :=
  ["set_dac(", "gpio_set(", "connect(", "disconnect(", "clear("]

/-- A request that lacks some part of each command. -/
def Quiet (request : Text) : Prop :=
  ∀ word ∈ words, ∃ c ∈ text word, c ∉ request

instance (request : Text) : Decidable (Quiet request) :=
  inferInstanceAs (Decidable (∀ word ∈ words, ∃ c ∈ text word, c ∉ request))

variable {α : Type} {word s : Text} {arguments? : Text → Option α} {c : CodePoint}

theorem dropLead?_eq_none (inWord : c ∈ word) (absent : c ∉ s) :
    Text.dropLead? word s = none := by
  rw [Option.eq_none_iff_forall_ne_some]
  intro rest found
  rw [Text.dropLead?_eq_some_iff] at found
  exact absent (found ▸ List.mem_append_left rest inWord)

theorem first?_eq_none (inWord : c ∈ word) (absent : c ∉ s) :
    first? word arguments? s = none := by
  induction s with
  | nil => rfl
  | cons d s ih =>
      rw [first?, dropLead?_eq_none inWord absent,
        ih fun member => absent (List.mem_cons_of_mem d member)]
      rfl

theorem firstWhole?_eq_none (inWord : c ∈ word) (absent : c ∉ s) (within : Bool) :
    firstWhole? word arguments? within s = none := by
  induction s generalizing within with
  | nil => rfl
  | cons d s ih =>
      rw [firstWhole?, dropLead?_eq_none inWord absent,
        ih fun member => absent (List.mem_cons_of_mem d member)]
      cases within <;> rfl

end Command

namespace Board

open Command

theorem apply_of_quiet {request : Text} (quiet : Quiet request) (b : Board) :
    b.apply request = b := by
  obtain ⟨_, inDac, noDac⟩ := quiet "set_dac(" (by decide)
  obtain ⟨_, inPin, noPin⟩ := quiet "gpio_set(" (by decide)
  obtain ⟨_, inConnect, noConnect⟩ := quiet "connect(" (by decide)
  obtain ⟨_, inDisconnect, noDisconnect⟩ := quiet "disconnect(" (by decide)
  obtain ⟨_, inClear, noClear⟩ := quiet "clear(" (by decide)
  rw [apply, applySetDac, setDac?, first?_eq_none inDac noDac,
    applySetPin, setPin?, first?_eq_none inPin noPin,
    applyConnect, connect?, firstWhole?_eq_none inConnect noConnect,
    applyDisconnect, disconnect?, firstWhole?_eq_none inDisconnect noDisconnect,
    applyClear, clear?, firstWhole?_eq_none inClear noClear]

/-! Only one command writes the outputs. -/

theorem dac_applySetPin (request : Text) (b : Board) :
    (b.applySetPin request).dac = b.dac := by
  rw [applySetPin]
  split
  · split
    · rw [setPin]
      split <;> rfl
    · rfl
  · rfl

theorem dac_applyConnect (request : Text) (b : Board) :
    (b.applyConnect request).dac = b.dac := by
  rw [applyConnect]
  split
  · rw [connect]
    split <;> rfl
  · rfl

theorem dac_applyDisconnect (request : Text) (b : Board) :
    (b.applyDisconnect request).dac = b.dac := by
  rw [applyDisconnect]
  split
  · rw [disconnect]
    split <;> rfl
  · rfl

theorem dac_applyClear (request : Text) (b : Board) :
    (b.applyClear request).dac = b.dac := by
  rw [applyClear]
  split <;> rfl

theorem dac_apply (request : Text) (b : Board) :
    (b.apply request).dac = (b.applySetDac request).dac := by
  rw [apply, dac_applyClear, dac_applyDisconnect, dac_applyConnect, dac_applySetPin]

theorem dac_applySetDac (request : Text) (b : Board) :
    (b.applySetDac request).dac = b.dac ∨
      ∃ channel v, (b.applySetDac request).dac = b.dac.put (b.output channel) v := by
  rw [applySetDac]
  split
  · next channel value _ =>
      split
      · next volts _ =>
          rw [setDac]
          split
          · exact .inr ⟨channel, volts, rfl⟩
          · exact .inl rfl
      · exact .inl rfl
  · exact .inl rfl

/-! The outputs of the stock board. -/

def channels : List String := ["0", "1", "TOP_RAIL", "BOTTOM_RAIL"]

/-- The outputs are there, and the numbers of the rails name nothing else. -/
structure Wired (b : Board) : Prop where
  present : ∀ channel ∈ channels, b.dac.has (text channel) = true
  numbers : ∀ number, (rail? number).isSome = true → b.dac.has number = false

theorem rail?_rail {channel rail : Text} (named : rail? channel = some rail) :
    rail? rail = none := by
  rw [rail?] at named
  split at named
  · cases named
    decide
  · split at named
    · cases named
      decide
    · cases named

/-- An output that is still to appear has no other name. -/
theorem rail?_output {b : Board} {channel : Text}
    (new : b.dac.has (b.output channel) = false) : rail? (b.output channel) = none := by
  rw [output] at new ⊢
  split
  · next has =>
      rw [if_pos has, has] at new
      cases new
  · cases rail : rail? channel with
    | none => exact rail
    | some name => exact rail?_rail rail

theorem output_ne_number {b : Board} {number : Text}
    (isNumber : (rail? number).isSome = true) (absent : b.dac.has number = false)
    (channel : Text) : b.output channel ≠ number := by
  rintro rfl
  rw [rail?_output absent] at isNumber
  cases isNumber

theorem wired_stock : stock.Wired where
  present := by decide
  numbers := by
    intro number isNumber
    rw [rail?] at isNumber
    split at isNumber
    · next same =>
        rw [same]
        decide
    · split at isNumber
      · next same =>
          rw [same]
          decide
      · cases isNumber

theorem Wired.apply {b : Board} (wired : b.Wired) (request : Text) :
    (b.apply request).Wired := by
  obtain same | ⟨channel, v, put⟩ := dac_applySetDac request b
  · exact ⟨by rw [dac_apply, same]; exact wired.present,
      by rw [dac_apply, same]; exact wired.numbers⟩
  · rw [← dac_apply] at put
    refine ⟨fun name known => ?_, fun number isNumber => ?_⟩
    · rw [put]
      exact Dict.has_put v (wired.present name known)
    · have other := output_ne_number isNumber (wired.numbers number isNumber) channel
      rw [put, Dict.has, Dict.get?_put, if_neg other.symm]
      exact wired.numbers number isNumber

theorem Wired.applyAll {b : Board} (wired : b.Wired) (requests : List Text) :
    (b.applyAll requests).Wired := by
  induction requests generalizing b with
  | nil => exact wired
  | cons request rest ih => exact ih (wired.apply request)

theorem dacVoltage?_of_has {b : Board} {channel : Text}
    (has : b.dac.has channel = true) : b.dacVoltage? channel = b.dac.get? channel := by
  rw [dacVoltage?, output, if_pos has]

theorem dacVoltage?_number {b : Board} (wired : b.Wired) {number rail : Text}
    (named : rail? number = some rail) : b.dacVoltage? number = b.dac.get? rail := by
  have absent := wired.numbers number (by rw [named]; rfl)
  rw [dacVoltage?, output, absent, if_neg Bool.false_ne_true, named]
  rfl

end Board

end Breadboard
