import Breadboard.Proofs.Config.Tables

/-! Keys in other spellings, and data around the same data. Neither changes what
a configuration is read as. -/

namespace Breadboard

/-! Lower case of plain texts. -/

theorem CodePoint.lower_of_small {c : CodePoint} (plain : c.toNat < 0x80)
    (small : ¬ (0x41 ≤ c.toNat ∧ c.toNat ≤ 0x5A)) : c.lower = c := by
  rw [lower]
  exact (if_pos plain).trans (if_neg small)

theorem Text.lowerAfter_of_plain {s : Text} (plain : ∀ c ∈ s, c.toNat < 0x80) (inWord : Bool) :
    lowerAfter inWord s = s.map CodePoint.lower := by
  induction s generalizing inWord with
  | nil => rfl
  | cons c s ih =>
      obtain ⟨first, others⟩ := List.forall_mem_cons.1 plain
      rw [lowerAfter, ih others, if_neg (by omega), if_neg (by omega)]
      rfl

namespace Key

/-! One key. -/

/-- A word of a key: a small letter, then small letters and digits. -/
def Word : Text → Prop
  | [] => False
  | c :: s => (0x61 ≤ c.toNat ∧ c.toNat ≤ 0x7A) ∧ ∀ d ∈ s, isLowOrDigit d = true

instance : DecidablePred Word
  | [] => isFalse id
  | c :: s => inferInstanceAs (Decidable
      ((0x61 ≤ c.toNat ∧ c.toNat ≤ 0x7A) ∧ ∀ d ∈ s, isLowOrDigit d = true))

/-- A key of words with underscores between them, and the same key in another
spelling. At each gap the underscore stays or is a dash, or there is none and the
word after it begins with a capital. Between other words, a word has two
characters or more: there may be one before it. -/
inductive Respelled : (inner : Bool) → Text → Text → Prop
  | last {inner : Bool} {w : Text} (word : Word w) : Respelled inner w w
  | mark {inner : Bool} {w key other : Text} {sep : CodePoint} (word : Word w)
      (long : inner = true → 2 ≤ w.length) (gap : sep = .char '_' ∨ sep = .char '-')
      (rest : Respelled true key other) :
      Respelled inner (w ++ .char '_' :: key) (w ++ sep :: other)
  | capital {inner : Bool} {w key other : Text} {c d : CodePoint} (word : Word w)
      (long : inner = true → 2 ≤ w.length) (capital : isCapital d = true) (small : d.lower = c)
      (rest : Respelled true (c :: key) (c :: other)) :
      Respelled inner (w ++ .char '_' :: c :: key) (w ++ d :: other)

variable {inner : Bool} {w key other : Text} {c : CodePoint}

theorem isLowOrDigit_iff : isLowOrDigit c = true ↔
    (0x61 ≤ c.toNat ∧ c.toNat ≤ 0x7A) ∨ (0x30 ≤ c.toNat ∧ c.toNat ≤ 0x39) := by
  simp [isLowOrDigit]

theorem isCapital_iff : isCapital c = true ↔ 0x41 ≤ c.toNat ∧ c.toNat ≤ 0x5A := by
  simp [isCapital]

theorem isCapital_of_isLowOrDigit (low : isLowOrDigit c = true) : isCapital c = false := by
  rw [Bool.eq_false_iff, ne_eq, isCapital_iff]
  rcases isLowOrDigit_iff.1 low with letter | digit <;> omega

theorem Word.isLowOrDigit (word : Word w) : ∀ d ∈ w, isLowOrDigit d = true := by
  cases w with
  | nil => exact word.elim
  | cons c s => exact List.forall_mem_cons.2 ⟨isLowOrDigit_iff.2 (.inl word.1), word.2⟩

theorem separated_low {low : Bool} (own : Key.isLowOrDigit c = true) (rest : Text) :
    separated low (c :: rest) = c :: separated true rest := by
  have dash : c ≠ .char '-' := by
    rintro rfl
    exact absurd own (by decide)
  rw [separated, isCapital_of_isLowOrDigit own, Bool.and_false, if_neg dash, own]
  rfl

theorem separated_capital (own : isCapital c = true) (rest : Text) :
    separated true (c :: rest) = .char '_' :: c :: separated false rest := by
  have dash : c ≠ .char '-' := by
    rintro rfl
    exact absurd own (by decide)
  have low : Key.isLowOrDigit c = false := by
    rw [Bool.eq_false_iff]
    intro low
    rw [isCapital_of_isLowOrDigit low] at own
    cases own
  rw [separated, own, if_neg dash, low]
  rfl

theorem separated_gap {low : Bool} (gap : c = .char '_' ∨ c = .char '-') (rest : Text) :
    separated low (c :: rest) = .char '_' :: separated false rest := by
  rcases gap with rfl | rfl <;> cases low <;> rfl

/-- A capital is a new word only behind a small letter or a digit. -/
theorem separated_false {s : Text} (small : ∀ c ∈ s.head?, isCapital c = false) :
    separated false s = separated true s := by
  cases s with
  | nil => rfl
  | cons c s =>
      rw [separated, separated, small c rfl]
      rfl

theorem separated_lows {s : Text} (all : ∀ d ∈ s, Key.isLowOrDigit d = true) (rest : Text) :
    separated true (s ++ rest) = s ++ separated true rest := by
  induction s with
  | nil => rfl
  | cons c s ih =>
      obtain ⟨first, others⟩ := List.forall_mem_cons.1 all
      rw [List.cons_append, separated_low first, ih others]
      rfl

theorem Word.separated {low : Bool} (word : Word w) (rest : Text) :
    Key.separated low (w ++ rest) = w ++ Key.separated true rest := by
  have all := word.isLowOrDigit
  cases w with
  | nil => exact word.elim
  | cons c s =>
      obtain ⟨first, others⟩ := List.forall_mem_cons.1 all
      rw [List.cons_append, separated_low first, separated_lows others]
      rfl

theorem Word.lower (word : Word w) : w.map CodePoint.lower = w := by
  refine (List.map_congr_left fun d member => ?_).trans (List.map_id w)
  refine CodePoint.lower_of_small ?_ ?_ <;>
    rcases isLowOrDigit_iff.1 (word.isLowOrDigit d member) with letter | digit <;> omega

namespace Respelled

theorem refl (respelled : Respelled inner key other) : Respelled inner key key := by
  induction respelled with
  | last word => exact .last word
  | mark word long _ _ ih => exact .mark word long (.inl rfl) ih
  | capital word long _ _ _ ih => exact .mark word long (.inl rfl) ih

theorem first (respelled : Respelled inner key other) :
    ∀ c ∈ other.head?, isLowOrDigit c = true := by
  have ofWord : ∀ {w}, Word w → ∀ rest, ∀ c ∈ (w ++ rest).head?, Key.isLowOrDigit c = true := by
    intro w word rest c lead
    cases w with
    | nil => exact word.elim
    | cons d w =>
        cases lead
        exact word.isLowOrDigit _ List.mem_cons_self
  cases respelled with
  | last word => simpa using ofWord word []
  | mark word => exact ofWord word _
  | capital word => exact ofWord word _

/-- A capital does not follow the first letter of a word that is inside a key. -/
theorem second (respelled : Respelled true key other) {s : Text} (begins : other = c :: s) :
    ∀ d ∈ s.head?, isCapital d = false := by
  have inside : ∀ {w rest : Text}, Word w → 2 ≤ w.length → w ++ rest = c :: s →
      ∀ d ∈ s.head?, isCapital d = false := by
    intro w rest word long same d lead
    match w, long with
    | _ :: e :: w, _ =>
        cases same
        cases lead
        exact isCapital_of_isLowOrDigit
          (word.isLowOrDigit d (List.mem_cons_of_mem _ List.mem_cons_self))
  cases respelled with
  | last word =>
      intro d lead
      subst begins
      exact isCapital_of_isLowOrDigit
        (word.isLowOrDigit d (List.mem_cons_of_mem _ (List.mem_of_mem_head? lead)))
  | mark word long => exact inside word (long rfl) begins
  | capital word long => exact inside word (long rfl) begins

theorem plain (respelled : Respelled inner key other) : ∀ d ∈ other, d.toNat < 0x80 := by
  have ofWord : ∀ {w}, Word w → ∀ d ∈ w, d.toNat < 0x80 := by
    intro w word d member
    rcases isLowOrDigit_iff.1 (word.isLowOrDigit d member) with letter | digit <;> omega
  induction respelled with
  | last word => exact ofWord word
  | mark word _ gap _ ih =>
      refine List.forall_mem_append.2 ⟨ofWord word, List.forall_mem_cons.2 ⟨?_, ih⟩⟩
      rcases gap with rfl | rfl <;> decide
  | capital word _ capital _ _ ih =>
      have letter := isCapital_iff.1 capital
      exact List.forall_mem_append.2 ⟨ofWord word,
        List.forall_mem_cons.2 ⟨by omega, (List.forall_mem_cons.1 ih).2⟩⟩

theorem lower_separated (respelled : Respelled inner key other) (low : Bool) :
    (separated low other).map CodePoint.lower = key := by
  induction respelled generalizing low with
  | @last _ w word =>
      have whole : separated low (w ++ []) = w ++ separated true [] := word.separated []
      rw [List.append_nil] at whole
      rw [whole, separated, List.append_nil, word.lower]
  | mark word _ gap _ ih =>
      rw [word.separated, separated_gap gap, List.map_append, word.lower, List.map_cons, ih]
      rfl
  | @capital _ w key other c d word _ capital small rest ih =>
      -- no second capital follows, so the state behind the first does not matter
      rw [word.separated, separated_capital capital, List.map_append, word.lower,
        List.map_cons, List.map_cons, small, separated_false (rest.second rfl)]
      have next := ih true
      rw [separated_low (rest.first c rfl), List.map_cons] at next
      rw [(List.cons.inj next).2]
      rfl

end Respelled

theorem mem_separated {low : Bool} {s : Text} (member : c ∈ separated low s) :
    c = .char '_' ∨ c ∈ s := by
  induction s generalizing low with
  | nil => cases member
  | cons d s ih =>
      rw [separated, List.mem_append, List.mem_cons] at member
      rcases member with mark | here | later
      · split at mark
        · exact .inl (List.mem_singleton.1 mark)
        · cases mark
      · split at here
        · exact .inl here
        · exact .inr (here ▸ List.mem_cons_self)
      · exact (ih later).imp_right (List.mem_cons_of_mem d)

/-- However a key is spelled, its common spelling is the same. -/
theorem Respelled.snake (respelled : Respelled inner key other) : snake other = key := by
  rw [Key.snake, Text.lower, Text.lowerAfter_of_plain, respelled.lower_separated]
  intro c member
  rcases mem_separated member with rfl | there
  · decide
  · exact respelled.plain c there

/-- No two keys have a spelling in common. -/
theorem Respelled.unique {key' : Text} {inner' : Bool} (one : Respelled inner key other)
    (two : Respelled inner' key' other) : key = key' :=
  one.snake.symm.trans two.snake

end Key

/-! All keys of a value. -/

namespace Value

def isLeaf : Value → Bool
  | .list _ => false
  | .table _ => false
  | .map _ => false
  | _ => true

/-- The keys of a table and of the same table in another spelling. Identifiers
stay as they are. -/
def KeysAlike (ids : Bool) (k l : Value) : Prop :=
  if ids then k = l
  else ∃ key other, k = .text key ∧ l = .text other ∧ Key.Respelled false key other

/-- A key that is spelled in the common way stays as it is. -/
theorem KeysAlike.stays {ids : Bool} {k l : Value} (alike : KeysAlike ids k l) :
    (if ids then k.toText else Key.snake k.toText) = k.toText := by
  cases ids with
  | true => rfl
  | false =>
      obtain ⟨key, other, rfl, rfl, respelled⟩ := alike
      exact respelled.refl.snake

/-- Data whose keys are words with underscores between them, but for identifiers,
and the same data with keys in other spellings. -/
inductive Respelled : (ids : Bool) → Value → Value → Prop
  | leaf {ids : Bool} {v : Value} (leaf : v.isLeaf = true) : Respelled ids v v
  | list {ids : Bool} {items others : List Value} (length : items.length = others.length)
      (parts : ∀ p ∈ items.zip others, Respelled false p.1 p.2) :
      Respelled ids (.list items) (.list others)
  | mapping {ids : Bool} {v w : Value} (first : v.isMapping = true) (other : w.isMapping = true)
      (length : v.entries.length = w.entries.length)
      (keys : ∀ p ∈ v.entries.zip w.entries, KeysAlike ids p.1.1 p.2.1)
      (parts : ∀ p ∈ v.entries.zip w.entries,
        Respelled (!ids && Key.isIdTable p.1.1.toText) p.1.2 p.2.2) :
      Respelled ids v w

theorem Respelled.table {ids : Bool} {entries others : Table}
    (each : List.Forall₂ (fun e f => KeysAlike ids (.text e.1) (.text f.1) ∧
      Respelled (!ids && Key.isIdTable e.1) e.2 f.2) entries others) :
    Respelled ids (.table entries) (.table others) := by
  have lifted : List.Forall₂ (fun e f : Value × Value => KeysAlike ids e.1 f.1 ∧
      Respelled (!ids && Key.isIdTable e.1.toText) e.2 f.2)
      (Value.table entries).entries (Value.table others).entries :=
    List.forall₂_map_left_iff.2 (List.forall₂_map_right_iff.2 each)
  obtain ⟨length, both⟩ := List.forall₂_iff_zip.1 lifted
  exact .mapping rfl rfl length (fun _ member => (both member).1) fun _ member => (both member).2

end Value

namespace Key

open Value (KeysAlike)

variable {ids : Bool} {v w : Value}

theorem mapM_congr {α β γ : Type} {f : α → Except Fault γ} {g : β → Except Fault γ}
    {items : List α} {others : List β} (same : List.Forall₂ (fun a b => f a = g b) items others) :
    items.mapM f = others.mapM g := by
  induction same with
  | nil => rfl
  | cons first _ ih => rw [List.mapM_cons, List.mapM_cons, first, ih]

theorem normalPair_alike {k l : Value} (alike : KeysAlike ids k l) (steps : Nat)
    (same : normal (!ids && isIdTable k.toText) steps w =
      normal (!ids && isIdTable k.toText) steps v) :
    normalPair ids steps (l, w) = normalPair ids steps (k, v) := by
  cases ids with
  | true =>
      cases alike
      change (textOf k >>= fun s => normal false steps w >>= fun x => pure (s, x)) =
        (textOf k >>= fun s => normal false steps v >>= fun x => pure (s, x))
      rw [show normal false steps w = normal false steps v from same]
  | false =>
      obtain ⟨key, other, rfl, rfl, respelled⟩ := alike
      change (normal (isIdTable (snake other)) steps w >>= fun x => pure (snake other, x)) =
        (normal (isIdTable (snake key)) steps v >>= fun x => pure (snake key, x))
      rw [respelled.snake, respelled.refl.snake,
        show normal (isIdTable key) steps w = normal (isIdTable key) steps v from same]

theorem normal_respelled (respelled : v.Respelled ids w) (steps : Nat) :
    normal ids steps w = normal ids steps v := by
  induction respelled generalizing steps with
  | leaf => rfl
  | list length _ ih =>
      cases steps with
      | zero => rw [normal, normal]
      | succ steps =>
          rw [normal, normal, normalItems_eq, normalItems_eq,
            mapM_congr (List.forall₂_iff_zip.2 ⟨length, fun member =>
              (ih _ member (steps - 1)).symm⟩)]
  | mapping first other length keys _ ih =>
      cases steps with
      | zero => rw [normal, normal]
      | succ steps =>
          rw [normal_mapping first, normal_mapping other,
            mapM_congr (List.forall₂_iff_zip.2 ⟨length, fun member =>
              (normalPair_alike (keys _ member) steps (ih _ member steps)).symm⟩)]

/-! Data that is not too deep. -/

theorem holds_of_entry {entry : Value × Value} {n : Nat} (member : entry ∈ v.entries)
    (inner : entry.2.Holds n w) : v.Holds (n + 1) w := by
  cases v with
  | table entries =>
      obtain ⟨⟨k, u⟩, known, rfl⟩ := List.mem_map.1 member
      exact .entry known inner
  | map entries => exact .keyed member inner
  | _ => cases member

/-- Where nothing is so many steps inside, one step more makes no difference. -/
theorem normal_succ {steps : Nat} (shallow : ∀ n w, v.Holds n w → n < steps) :
    normal ids (steps + 1) v = normal ids steps v := by
  induction steps using Nat.strongRecOn generalizing ids v with
  | ind steps ih =>
      cases steps with
      | zero => exact absurd (shallow 0 v (.self v)) (Nat.not_lt_zero 0)
      | succ steps =>
          by_cases mapping : v.isMapping = true
          · rw [normal_mapping mapping, normal_mapping mapping]
            congr 1
            refine mapM_congr (List.forall₂_same.2 fun entry member => ?_)
            have same : ∀ ids, normal ids (steps + 1) entry.2 = normal ids steps entry.2 :=
              fun ids => ih steps (Nat.lt_succ_self _) fun n w inner =>
                Nat.lt_of_succ_lt_succ (shallow _ w (holds_of_entry member inner))
            simp only [normalPair, normalEntry, same]
          · cases v with
            | table => exact absurd rfl mapping
            | map => exact absurd rfl mapping
            | list items =>
                rw [normal, normal, normalItems_eq, normalItems_eq]
                congr 1
                refine mapM_congr (List.forall₂_same.2 fun item member => ?_)
                have inside : ∀ n w, item.Holds n w → n + 2 < steps + 1 :=
                  fun n w inner => shallow _ w (.item member inner)
                -- an item is two steps inside, so there is a step left to take
                obtain ⟨fewer, rfl⟩ : ∃ fewer, steps = fewer + 1 :=
                  ⟨steps - 1, by have := inside 0 item (.self item); omega⟩
                exact ih fewer (by omega) fun n w inner => by
                  have := inside n w inner
                  omega
            | again shape => cases shape <;> rfl
            | _ => rfl

end Key

end Breadboard
