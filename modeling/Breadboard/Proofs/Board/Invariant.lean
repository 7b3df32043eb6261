import Breadboard.Board.Command
import Breadboard.Board.Stock
import Breadboard.Proofs.Data.Dict
import Mathlib.Algebra.Order.Field.Rat
import Mathlib.Algebra.Order.Field.Power
import Mathlib.Data.Sym.Sym2
import Mathlib.Logic.Relation
import Mathlib.Tactic.Positivity

/-! What requests cannot do to a board. Whatever they say, its outputs stay
within their range, its pins hold a bit and no two of its connections join the
same nodes; nothing disappears, and what no command writes stays as it is. -/

namespace Breadboard

/-! The range of the outputs, in exact numbers. -/

def Dyadic.worth (d : Dyadic) : ℚ :=
  (if d.negative then -1 else 1) * (d.mantissa * 2 ^ d.exponent)

theorem Dyadic.abs_worth (d : Dyadic) :
    |d.worth| = (d.ratio.1 : ℚ) / d.ratio.2 := by
  have sign : |(if d.negative then (-1 : ℚ) else 1)| = 1 := by
    split <;> simp
  have positive : (0 : ℚ) ≤ d.mantissa * 2 ^ d.exponent := by positivity
  rw [worth, abs_mul, sign, one_mul, abs_of_nonneg positive, ratio]
  cases d.exponent with
  | ofNat e => simp
  | negSucc e => simp [zpow_negSucc, div_eq_mul_inv]

theorem Dyadic.ratio_pos (d : Dyadic) : 0 < d.ratio.2 := by
  rw [ratio]
  cases d.exponent with
  | ofNat e => exact Nat.one_pos
  | negSucc e => exact Nat.pow_pos (by decide)

theorem FloatKind.within_iff {bound : Nat} {k : FloatKind} :
    k.within bound = true ↔
      ∃ d, k = .finite d ∧ -bound ≤ d.worth ∧ d.worth ≤ bound := by
  cases k with
  | nan => simp [within]
  | infinite negative => simp [within]
  | finite d =>
      have positive : (0 : ℚ) < d.ratio.2 := Nat.cast_pos.2 d.ratio_pos
      simp only [within, decide_eq_true_eq, finite.injEq, exists_eq_left']
      rw [← abs_le, d.abs_worth, div_le_iff₀ positive]
      exact_mod_cast Iff.rfl

/-! Connections as unordered pairs. -/

def Connection.ends (c : Connection) : Sym2 Text := s(c.one, c.other)

theorem Connection.joins_iff {c : Connection} {x y : Text} :
    c.joins x y = true ↔ c.ends = s(x, y) := by
  simp only [joins, ends, Sym2.eq_iff, Bool.or_eq_true, Bool.and_eq_true,
    decide_eq_true_eq]

namespace Board

theorem isConnected_iff {b : Board} {x y : Text} :
    b.isConnected x y = true ↔ s(x, y) ∈ b.connections.map Connection.ends := by
  simp only [isConnected, List.any_eq_true, Connection.joins_iff, List.mem_map]

/-- A voltage that an output can have: a number, and not too large either
way. -/
def Volts (v : Float) : Prop :=
  ∃ d, FloatKind.of v = .finite d ∧ -8 ≤ d.worth ∧ d.worth ≤ 8

theorem inRange_iff {v : Float} : inRange v = true ↔ Volts v := by
  rw [inRange, FloatKind.within_iff]
  exact Iff.rfl

structure Sound (b : Board) : Prop where
  volts : ∀ channel v, b.dac.get? channel = some v → Volts v
  pins : ∀ pin p, b.pins.get? pin = some p → p.value = 0 ∨ p.value = 1
  apart : (b.connections.map Connection.ends).Nodup

structure Keeps (b b' : Board) : Prop where
  dac : ∀ channel, b.dac.has channel = true → b'.dac.has channel = true
  pins : ∀ pin p, b.pins.get? pin = some p → ∃ p', b'.pins.get? pin = some p' ∧
    p'.direction = p.direction ∧ p'.pull = p.pull
  adc : b'.adc = b.adc
  sensors : b'.sensors = b.sensors
  nodes : b'.nodes = b.nodes
  firmware : b'.firmware = b.firmware
  identity : b'.identity = b.identity

theorem Keeps.refl (b : Board) : b.Keeps b where
  dac := fun _ there => there
  pins := fun _ p found => ⟨p, found, rfl, rfl⟩
  adc := rfl
  sensors := rfl
  nodes := rfl
  firmware := rfl
  identity := rfl

theorem Keeps.trans {a b c : Board} (first : a.Keeps b) (second : b.Keeps c) :
    a.Keeps c where
  dac := fun channel there => second.dac channel (first.dac channel there)
  pins := by
    intro pin p found
    obtain ⟨q, middle, direction, pull⟩ := first.pins pin p found
    obtain ⟨r, last, direction', pull'⟩ := second.pins pin q middle
    exact ⟨r, last, direction'.trans direction, pull'.trans pull⟩
  adc := second.adc.trans first.adc
  sensors := second.sensors.trans first.sensors
  nodes := second.nodes.trans first.nodes
  firmware := second.firmware.trans first.firmware
  identity := second.identity.trans first.identity

/-! One command. -/

inductive Change (b : Board) : Board → Prop
  | none : Change b b
  | dac (channel : Text) (volts : Volts v) :
      Change b { b with dac := b.dac.put channel v }
  | pin (pin : Text) (bit : i = 0 ∨ i = 1) :
      Change b { b with
        pins := b.pins.put pin { (b.pins.get? pin).getD {} with value := i } }
  | connected (x y : Text) (new : b.isConnected x y = false) :
      Change b { b with connections := b.connections ++ [⟨x, y⟩] }
  | disconnected (kept : rest.Sublist b.connections) :
      Change b { b with connections := rest }

theorem change_setDac (b : Board) (channel : Text) (volts : Float) :
    b.Change (b.setDac channel volts).2 := by
  rw [setDac]
  split
  · next reached => exact .dac _ (inRange_iff.1 reached)
  · exact .none

theorem change_setPin (b : Board) (pin : Text) (value : Int) :
    b.Change (b.setPin pin value).2 := by
  rw [setPin]
  split
  · next bit => exact .pin pin bit
  · exact .none

theorem change_connect (b : Board) (x y : Text) :
    b.Change (b.connect x y).2 := by
  rw [connect]
  split
  · exact .none
  · next apart => exact .connected x y (Bool.eq_false_iff.2 apart)

theorem change_disconnect (b : Board) (x y : Text) :
    b.Change (b.disconnect x y).2 := by
  rw [disconnect]
  split
  · exact .disconnected (List.eraseP_sublist ..)
  · exact .none

theorem Change.keeps {b b' : Board} (change : b.Change b') : b.Keeps b' := by
  cases change with
  | none => exact .refl b
  | dac channel volts =>
      exact { Keeps.refl b with dac := fun other there => Dict.has_put _ there }
  | pin pin bit =>
      refine { Keeps.refl b with pins := ?_ }
      intro other p found
      by_cases same : other = pin
      · subst same
        exact ⟨_, by rw [Dict.get?_put, if_pos rfl], by rw [found]; rfl,
          by rw [found]; rfl⟩
      · exact ⟨p, by rw [Dict.get?_put, if_neg same, found], rfl, rfl⟩
  | connected x y new => exact { Keeps.refl b with }
  | disconnected kept => exact { Keeps.refl b with }

theorem Change.sound {b b' : Board} (change : b.Change b') (sound : b.Sound) :
    b'.Sound := by
  cases change with
  | none => exact sound
  | dac channel volts =>
      refine { sound with volts := ?_ }
      intro other v found
      rw [Dict.get?_put] at found
      split at found
      · cases found
        exact volts
      · exact sound.volts other v found
  | pin pin bit =>
      refine { sound with pins := ?_ }
      intro other p found
      rw [Dict.get?_put] at found
      split at found
      · cases found
        exact bit
      · exact sound.pins other p found
  | connected x y new =>
      refine { sound with apart := ?_ }
      have absent : s(x, y) ∉ b.connections.map Connection.ends := by
        intro member
        rw [isConnected_iff.2 member] at new
        cases new
      rw [List.map_append, List.map_singleton, ← List.concat_eq_append]
      exact sound.apart.concat absent
  | disconnected kept =>
      exact { sound with apart := sound.apart.sublist (kept.map _) }

/-! One request, and then all of them. -/

theorem change_applySetDac (request : Text) (b : Board) :
    b.Change (b.applySetDac request) := by
  rw [applySetDac]
  split
  · split
    · exact change_setDac ..
    · exact .none
  · exact .none

theorem change_applySetPin (request : Text) (b : Board) :
    b.Change (b.applySetPin request) := by
  rw [applySetPin]
  split
  · split
    · exact change_setPin ..
    · exact .none
  · exact .none

theorem change_applyConnect (request : Text) (b : Board) :
    b.Change (b.applyConnect request) := by
  rw [applyConnect]
  split
  · exact change_connect ..
  · exact .none

theorem change_applyDisconnect (request : Text) (b : Board) :
    b.Change (b.applyDisconnect request) := by
  rw [applyDisconnect]
  split
  · exact change_disconnect ..
  · exact .none

theorem change_applyClear (request : Text) (b : Board) :
    b.Change (b.applyClear request) := by
  rw [applyClear]
  split
  · exact .disconnected (List.nil_sublist _)
  · exact .none

abbrev Changes : Board → Board → Prop := Relation.ReflTransGen Change

theorem changes_apply (request : Text) (b : Board) :
    b.Changes (b.apply request) := by
  have one : b.Changes (b.applySetDac request) :=
    .single (change_applySetDac request b)
  have two := one.tail (change_applySetPin request _)
  have three := two.tail (change_applyConnect request _)
  have four := three.tail (change_applyDisconnect request _)
  exact four.tail (change_applyClear request _)

theorem Changes.keeps {b b' : Board} (changes : b.Changes b') :
    b.Keeps b' := by
  induction changes with
  | refl => exact .refl b
  | tail _ change ih => exact ih.trans change.keeps

theorem Changes.sound {b b' : Board} (changes : b.Changes b')
    (sound : b.Sound) : b'.Sound := by
  induction changes with
  | refl => exact sound
  | tail _ change ih => exact change.sound ih

def applyAll (requests : List Text) (b : Board) : Board :=
  requests.foldl (fun b request => b.apply request) b

theorem changes_applyAll (requests : List Text) (b : Board) :
    b.Changes (b.applyAll requests) := by
  induction requests generalizing b with
  | nil => exact .refl
  | cons request rest ih => exact (changes_apply request b).trans (ih _)

theorem sound_stock : stock.Sound where
  volts := by
    have all : ∀ e ∈ stock.dac, inRange e.2 = true := by decide +kernel
    intro channel v found
    exact inRange_iff.1 (all (channel, v) (Dict.mem_of_get? found))
  pins := by
    have all : ∀ e ∈ stock.pins, e.2.value = 0 := by decide
    intro pin p found
    exact .inl (all (pin, p) (Dict.mem_of_get? found))
  apart := List.nodup_nil

/-- Whatever is requested of a sound board, as the stock one is, it stays
sound and keeps its channels, its pins and all that no request writes. -/
theorem sound_applyAll {b : Board} (sound : b.Sound) (requests : List Text) :
    (b.applyAll requests).Sound ∧ b.Keeps (b.applyAll requests) :=
  have changes := changes_applyAll requests b
  ⟨changes.sound sound, changes.keeps⟩

/-- Volts that are no number, too many or well hidden, pins with a third
value, a pair connected twice. -/
def mischief : List Text := [
  text "set_dac(2, nan) gpio_set(11, 1) connect( A , B )",
  text "set_dac(3, -inf) gpio_set(0, 2) connect(B,A)",
  text "set_dac(0, 1e999)", text "set_dac(TOP_RAIL, 8.000001)",
  text "set_dac(new, 0_7.5) disconnect(B, C) gpio_set(1, +0_1)"]

theorem sound_after_mischief :
    stock.Sound ∧
      ((stock.applyAll mischief).Sound ∧
        stock.Keeps (stock.applyAll mischief)) ∧
      (stock.applyAll mischief).connections = [⟨text "A", text "B"⟩] :=
  ⟨sound_stock, sound_applyAll sound_stock mischief, by decide +kernel⟩

end Board

end Breadboard
