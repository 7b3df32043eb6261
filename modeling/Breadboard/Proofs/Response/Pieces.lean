import Breadboard.Board.Stock
import Breadboard.Proofs.Number.Numeral
import Breadboard.Proofs.Response.Template
import Mathlib.Data.List.Perm.Basic

/-! Texts put together from placeholders and what stands between them. Each
piece becomes what it would become alone, in whatever order the kinds of
placeholder are resolved, and nothing is left to be resolved. One pin whose value
has too many digits spoils the whole text. -/

namespace Breadboard

namespace Placeholder

open Depth

inductive Piece where
  | literal (s : Text)
  | voltage (channel : Text)
  | value (channel : Text)
  | input (channel : Text)
  | pin (name : Text)
  | joined (one other : Text)

def twoPlaces : Option Float → Text
  | some v => fixedText 2 v
  | none => text "0.00"

theorem volts_eq (v : Option Float) : volts v = twoPlaces v := by
  cases v with
  | none => decide +kernel
  | some v => rfl

namespace Piece

def written : Piece → Text
  | literal s => s
  | voltage channel => braced (text "dac_voltage" ++ text ":" ++ channel)
  | value channel => braced (text "dac_value" ++ text ":" ++ channel)
  | input channel => braced (text "adc_voltage" ++ text ":" ++ channel)
  | pin name => braced (text "gpio_value" ++ text ":" ++ name)
  | joined one other => braced (text "is_connected" ++ text ":" ++ one ++ text ":" ++ other)

def filled (board : Board) : Piece → Text
  | literal s => s
  | voltage channel => twoPlaces (board.dacVoltage? channel) ++ text "V"
  | value channel => twoPlaces (board.dacVoltage? channel)
  | input channel => twoPlaces (board.adcVoltage? channel) ++ text "V"
  | pin name =>
      match board.pinValue? name with
      | some bit => Text.ofInt bit
      | none => text "0"
  | joined one other => text (if board.isConnected one other then "true" else "false")

def Endless (board : Board) : Piece → Prop
  | literal _ | voltage _ | value _ | input _ | joined _ _ => False
  | pin name => 10 ^ mostDigits ≤ ((board.pinValue? name).getD 0).natAbs

instance (board : Board) : (piece : Piece) → Decidable (piece.Endless board)
  | literal _ | voltage _ | value _ | input _ | joined _ _ =>
      inferInstanceAs (Decidable False)
  | pin _ => inferInstanceAs (Decidable (_ ≤ _))

def outcome (board : Board) (piece : Piece) : Option Text :=
  if piece.Endless board then none else some (piece.filled board)

structure Name (s : Text) : Prop where
  given : s ≠ []
  letters : ∀ c ∈ s, c.isWord = true

structure Pair (one other : Text) : Prop where
  first : one ≠ []
  second : other ≠ []
  braceless : Braceless (one ++ other)
  colon : .char ':' ∉ one

def Fit : Piece → Prop
  | literal s => Braceless s
  | voltage name | value name | input name | pin name => Name name
  | joined one other => Pair one other

instance (s : Text) : Decidable (Name s) :=
  decidable_of_iff (s ≠ [] ∧ ∀ c ∈ s, c.isWord = true)
    ⟨fun ⟨given, letters⟩ => ⟨given, letters⟩, fun name => ⟨name.given, name.letters⟩⟩

instance (one other : Text) : Decidable (Pair one other) :=
  decidable_of_iff (one ≠ [] ∧ other ≠ [] ∧ Braceless (one ++ other) ∧ .char ':' ∉ one)
    ⟨fun ⟨first, second, braceless, colon⟩ => ⟨first, second, braceless, colon⟩,
      fun pair => ⟨pair.first, pair.second, pair.braceless, pair.colon⟩⟩

instance : (piece : Piece) → Decidable piece.Fit
  | literal s => inferInstanceAs (Decidable (Braceless s))
  | voltage name | value name | input name | pin name =>
      inferInstanceAs (Decidable (Name name))
  | joined one other => inferInstanceAs (Decidable (Pair one other))

end Piece

/-! One piece. -/

/-- A piece is plain text, or what some kind of placeholder knows. -/
inductive Piece.Stands (board : Board) : Piece → Prop
  | literal (braceless : Braceless s) : Stands board (.literal s)
  | placeholder {inner : Text} (kind : Kind) (member : kind ∈ Kind.all board)
      (braceless : Braceless inner) (written : piece.written = braced inner)
      (known : kind.stands inner (piece.outcome board)) : Stands board piece

variable {board : Board} {piece : Piece} {one other : Text}

theorem braceless_pair (pair : Piece.Pair one other) :
    Braceless (text "is_connected" ++ text ":" ++ one ++ text ":" ++ other) := by
  obtain ⟨unopened, unclosed⟩ := pair.braceless
  rw [List.mem_append, not_or] at unopened unclosed
  have front : Braceless (text "is_connected" ++ text ":") := by decide
  exact ((front.append ⟨unopened.1, unclosed.1⟩).append (by decide)).append
    ⟨unopened.2, unclosed.2⟩

theorem paired_of_pair (value : Text → Text → Option Text) (pair : Piece.Pair one other) :
    Paired "is_connected" value
      (text "is_connected" ++ text ":" ++ one ++ text ":" ++ other) (value one other) := by
  have unclosed := pair.braceless.2
  rw [List.mem_append, not_or] at unclosed
  exact .intro one other pair.first
    (fun c member => ⟨fun same => pair.colon (same ▸ member),
      fun same => unclosed.1 (same ▸ member)⟩)
    pair.second fun c member same => unclosed.2 (same ▸ member)

/-- What a piece with a name needs of its kind: a word without braces, and the
value of the name. -/
theorem Piece.Stands.named {name : Text} (kind : Kind) (member : kind ∈ Kind.all board)
    {word : String} {value : Text → Option Text} (own : kind.stands = Named word value)
    (braceless : Braceless (text word)) (fit : Name name)
    (written : piece.written = braced (text word ++ text ":" ++ name))
    (outcome : piece.outcome board = value name) : Stands board piece := by
  refine .placeholder kind member (braceless_named word braceless fit.letters) written ?_
  rw [own, outcome]
  exact .intro name fit.given fit.letters

theorem Piece.outcome_of_finite (finite : ¬ piece.Endless board) :
    piece.outcome board = some (piece.filled board) :=
  if_neg finite

theorem Piece.outcome_pin (board : Board) (name : Text) :
    (pin name).outcome board = writeInteger? ((board.pinValue? name).getD 0) := by
  have value : (pin name).filled board = Text.ofInt ((board.pinValue? name).getD 0) := by
    rw [filled]
    cases board.pinValue? name <;> rfl
  rw [writeInteger?_eq, outcome, value]
  exact if_congr Iff.rfl rfl rfl

theorem Piece.stands_of_fit (board : Board) (fit : piece.Fit) : Stands board piece := by
  cases piece with
  | literal s => exact .literal fit
  | voltage name =>
      refine .named _ (.head _) rfl (by decide) fit rfl ?_
      rw [outcome_of_finite id, filled, ← volts_eq]
  | value name =>
      refine .named _ (.tail _ (.head _)) rfl (by decide) fit rfl ?_
      rw [outcome_of_finite id, filled, ← volts_eq]
  | input name =>
      refine .named _ (.tail _ (.tail _ (.head _))) rfl (by decide) fit rfl ?_
      rw [outcome_of_finite id, filled, ← volts_eq]
  | pin name =>
      exact .named _ (.tail _ (.tail _ (.tail _ (.head _)))) rfl (by decide) fit rfl
        (outcome_pin board name)
  | joined one other =>
      exact .placeholder _ (.tail _ (.tail _ (.tail _ (.tail _ (.head _)))))
        (braceless_pair fit) rfl (paired_of_pair _ fit)

theorem Piece.Stands.outer (stands : Piece.Stands board piece) :
    outside.run piece.written = outside := by
  cases stands with
  | literal braceless => exact braceless.run rfl
  | placeholder kind member braceless written known =>
      rw [written]
      exact outer_braced braceless

theorem Piece.braceless_filled (fit : piece.Fit) : Braceless (piece.filled board) := by
  cases piece with
  | literal s => exact fit
  | voltage name =>
      rw [filled, ← volts_eq]
      exact (plain_reading _).braceless
  | value name =>
      rw [filled, ← volts_eq]
      exact (plain_volts _).braceless
  | input name =>
      rw [filled, ← volts_eq]
      exact (plain_reading _).braceless
  | pin name =>
      rw [filled]
      split
      · exact (plain_ofInt _).braceless
      · decide
  | joined one other => exact (plain_bool _).braceless

theorem Piece.Stands.pass? (stands : Piece.Stands board piece) {order : List Kind}
    (perm : order.Perm (Kind.all board)) :
    pass? (order.map Kind.at?) piece.written = piece.outcome board := by
  cases stands with
  | literal braceless => exact pass?_of_free (slot_of_mem_map order) braceless.free
  | placeholder kind member braceless written known =>
      have apart := (perm.map Kind.word).nodup_iff.2 (Kind.nodup_word_all board)
      rw [written]
      exact pass?_braced apart (perm.mem_iff.2 member) known braceless

/-! All pieces. -/

section

variable {pieces : List Piece} {order : List Kind} (perm : order.Perm (Kind.all board))

include perm

/-- What comes of the first piece, and then of the others. -/
theorem pass?_piece (first : piece.Fit) :
    pass? (order.map Kind.at?) ((piece :: pieces).flatMap Piece.written) =
      joined? (piece.outcome board)
        (pass? (order.map Kind.at?) (pieces.flatMap Piece.written)) := by
  have stands := Piece.stands_of_fit board first
  rw [List.flatMap_cons, pass?_append (slot_of_mem_map order) (.sealing stands.outer),
    stands.pass? perm]

theorem pass?_of_finite (fit : ∀ piece ∈ pieces, piece.Fit)
    (finite : ∀ piece ∈ pieces, ¬ piece.Endless board) :
    pass? (order.map Kind.at?) (pieces.flatMap Piece.written) =
      some (pieces.flatMap (Piece.filled board)) := by
  induction pieces with
  | nil => exact pass?_of_free (slot_of_mem_map order) (s := []) (by decide : Braceless []).free
  | cons piece rest ih =>
      obtain ⟨first, others⟩ := List.forall_mem_cons.1 fit
      obtain ⟨own, later⟩ := List.forall_mem_cons.1 finite
      rw [pass?_piece perm first, ih others later, Piece.outcome_of_finite own]
      rfl

theorem pass?_of_endless (fit : ∀ piece ∈ pieces, piece.Fit)
    (endless : ∃ piece ∈ pieces, piece.Endless board) :
    pass? (order.map Kind.at?) (pieces.flatMap Piece.written) = none := by
  induction pieces with
  | nil => obtain ⟨_, member, _⟩ := endless; cases member
  | cons piece rest ih =>
      obtain ⟨first, others⟩ := List.forall_mem_cons.1 fit
      rw [pass?_piece perm first]
      obtain ⟨other, member, long⟩ := endless
      rcases List.mem_cons.1 member with rfl | later
      · rw [Piece.outcome, if_pos long]
        rfl
      · rw [ih others ⟨other, later, long⟩]
        exact Option.map₂_none_right _ _

omit perm in
theorem braceless_pieces (fit : ∀ piece ∈ pieces, piece.Fit) :
    Braceless (pieces.flatMap (Piece.filled board)) := by
  induction pieces with
  | nil => exact (by decide : Braceless [])
  | cons piece rest ih =>
      obtain ⟨first, others⟩ := List.forall_mem_cons.1 fit
      exact (Piece.braceless_filled first).append (ih others)

end

/-- Recognisers of all kinds, in any order, are those of the kinds in some order. -/
theorem exists_order {board : Board} {order : List Text.Recogniser}
    (perm : order.Perm (kinds board)) :
    ∃ sorted : List Kind, order = sorted.map Kind.at? ∧ sorted.Perm (Kind.all board) := by
  rw [← Kind.map_at?_all] at perm
  have split : Relation.Comp (· = List.map Kind.at? ·) List.Perm order (Kind.all board) := by
    rw [List.eq_map_comp_perm]
    exact perm
  exact split

/-- A text of placeholders and of text between them becomes the values of the
placeholders with the same text between them, whatever the order of the passes,
unless a pin that is asked for has a value of too many digits: then nothing
becomes of it. The values with the text between them have nothing in them that
any board would resolve. -/
theorem resolve_pieces (board : Board) {pieces : List Piece}
    (fit : ∀ piece ∈ pieces, piece.Fit) :
    ((∀ piece ∈ pieces, ¬ piece.Endless board) →
      resolve? board (pieces.flatMap Piece.written) =
          some (pieces.flatMap (Piece.filled board)) ∧
        ∀ order : List Text.Recogniser, order.Perm (kinds board) →
          pass? order (pieces.flatMap Piece.written) =
            some (pieces.flatMap (Piece.filled board))) ∧
    ((∃ piece ∈ pieces, piece.Endless board) →
      resolve? board (pieces.flatMap Piece.written) = none ∧
        ∀ order : List Text.Recogniser, order.Perm (kinds board) →
          pass? order (pieces.flatMap Piece.written) = none) ∧
    ∀ later : Board, resolve? later (pieces.flatMap (Piece.filled board)) =
      some (pieces.flatMap (Piece.filled board)) := by
  refine ⟨fun finite => ⟨pass?_of_finite (.refl _) fit finite, fun order perm => ?_⟩,
    fun endless => ⟨pass?_of_endless (.refl _) fit endless, fun order perm => ?_⟩,
    fun later => resolve?_of_free later (braceless_pieces fit).free⟩
  · obtain ⟨sorted, rfl, shuffled⟩ := exists_order perm
    exact pass?_of_finite shuffled fit finite
  · obtain ⟨sorted, rfl, shuffled⟩ := exists_order perm
    exact pass?_of_endless shuffled fit endless

/-- All kinds side by side, with a channel by its number and by its name, some
that are not there, and names that look like parts of others. -/
def patchwork : List Piece := [
  .voltage (text "2"), .value (text "TOP_RAIL"), .literal (text " dac_value:0 "),
  .input (text "4"), .pin (text "9"), .pin (text "x"), .literal [],
  .joined (text "dac_value") (text "0:gpio_value:1"), .value (text "٢"), .input (text "GND")]

theorem patchwork_resolved :
    (∀ piece ∈ patchwork, piece.Fit) ∧ (∀ piece ∈ patchwork, ¬ piece.Endless .stock) ∧
      patchwork.flatMap Piece.written =
        text "\x7b\x7bdac_voltage:2\x7d\x7d\x7b\x7bdac_value:TOP_RAIL\x7d\x7d dac_value:0 " ++
        text "\x7b\x7badc_voltage:4\x7d\x7d\x7b\x7bgpio_value:9\x7d\x7d" ++
        text "\x7b\x7bgpio_value:x\x7d\x7d" ++
        text "\x7b\x7bis_connected:dac_value:0:gpio_value:1\x7d\x7d" ++
        text "\x7b\x7bdac_value:٢\x7d\x7d\x7b\x7badc_voltage:GND\x7d\x7d" ∧
      resolve? .stock (patchwork.flatMap Piece.written) =
        some (text "3.50V3.50 dac_value:0 0.00V00false0.000.00V") := by
  have fit : ∀ piece ∈ patchwork, piece.Fit := by decide
  have finite : ∀ piece ∈ patchwork, ¬ piece.Endless .stock := by decide +kernel
  have values : patchwork.flatMap (Piece.filled .stock) =
      text "3.50V3.50 dac_value:0 0.00V00false0.000.00V" := by decide +kernel
  obtain ⟨resolves, -, -⟩ := resolve_pieces .stock fit
  exact ⟨fit, finite, by decide +kernel, (resolves finite).1.trans (congrArg some values)⟩

/-- A board with one pin, whose value has a digit too many. -/
def brimming : Board :=
  { firmware := [], pins := [(text "1", { value := 10 ^ mostDigits })] }

/-- The pin has a value, and yet nothing becomes of a placeholder for it. -/
theorem brimming_unresolved :
    brimming.pinValue? (text "1") = some (10 ^ mostDigits) ∧
      (Piece.pin (text "1")).Fit ∧
      (Piece.pin (text "1")).filled brimming = Text.ofInt (10 ^ mostDigits) ∧
      resolve? brimming (text "\x7b\x7bgpio_value:1\x7d\x7d") = none := by
  have value : brimming.pinValue? (text "1") = some (10 ^ mostDigits) := rfl
  have fit : (Piece.pin (text "1")).Fit := by decide
  have long : (Piece.pin (text "1")).Endless brimming := by
    rw [Piece.Endless, value, Option.getD_some, Int.natAbs_pow]
    exact Nat.pow_le_pow_left (by decide) _
  refine ⟨value, fit, by simp only [Piece.filled, value], ?_⟩
  exact pass?_of_endless (.refl _) (List.forall_mem_singleton.2 fit) ⟨_, .head _, long⟩

end Placeholder

end Breadboard
