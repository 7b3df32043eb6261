import Breadboard.Text.Utf8
import Mathlib.Algebra.Group.Nat.Defs

/-! Bytes read as text with every stray byte escaped are written back as the
same bytes, whatever they are and however they were cut into reads. -/

namespace Breadboard.Utf8

/-! The bytes of a character, in arithmetic. -/

/-- The bytes that end an encoding: the last groups of six bits. -/
def trailing : (count : Nat) → (n : Nat) → Bytes
  | 0, _ => []
  | count + 1, n => .ofNat (n / 64 ^ count % 64 + 0x80) :: trailing count n

theorem toNat_ofNat {n : Nat} (valid : n.isValidChar) :
    (Char.ofNat n).val.toNat = n := by
  rw [Char.ofNat, dif_pos valid]
  rfl

theorem ofNat_eq_of_toNat {b : UInt8} {n : Nat} (equality : b.toNat = n) :
    UInt8.ofNat n = b := by
  rw [← equality, UInt8.ofNat_toNat]

/-- A partial character knows the encoding of every character that can still
become of it. -/
structure Partial.Sound (p : Partial) : Prop where
  low : 0x80 ≤ p.low
  high : ∀ b ∈ p.bytes, 0x80 ≤ b.toNat
  encodes : ∀ {n : Nat} {next : UInt8}, p.low ≤ next.toNat →
    next.toNat ≤ p.high →
    n / 64 ^ (p.due - 1) = p.value * 64 + (next.toNat - 0x80) →
    String.utf8EncodeChar (.ofNat n) =
      p.bytes ++ next :: trailing (p.due - 1) n

theorem sound_of_two {b : UInt8} (least : 0xC2 ≤ b.toNat)
    (most : b.toNat < 0xE0) :
    Partial.Sound ⟨[b], b.toNat - 0xC0, 1, 0x80, 0xBF⟩ where
  low := Nat.le_refl _
  high := by
    intro c member
    obtain rfl := List.mem_singleton.1 member
    omega
  encodes := by
    intro n next low high value
    simp only [Nat.sub_self, Nat.pow_zero, Nat.div_one] at value low high
    have valid : n.isValidChar := by
      simp only [Nat.isValidChar]
      omega
    rw [String.utf8EncodeChar, toNat_ofNat valid]
    simp only [if_neg (show ¬ n ≤ 0x7f by omega),
      if_pos (show n ≤ 0x7ff by omega), List.singleton_append, Nat.sub_self,
      trailing]
    rw [ofNat_eq_of_toNat (b := b) (by omega),
      ofNat_eq_of_toNat (b := next) (by omega)]

theorem sound_of_three {b : UInt8} {value low high : Nat}
    (first : b.toNat = 0xE0 + value) (small : value < 16)
    (least : 0x80 ≤ low) (most : high ≤ 0xBF) (long : value = 0 → 0xA0 ≤ low)
    (character : value = 13 → high ≤ 0x9F) :
    Partial.Sound ⟨[b], value, 2, low, high⟩ where
  low := least
  high := by
    intro c member
    obtain rfl := List.mem_singleton.1 member
    omega
  encodes := by
    intro n next above below bits
    simp only [Nat.add_one_sub_one, Nat.pow_one] at bits above below
    have valid : n.isValidChar := by
      simp only [Nat.isValidChar]
      omega
    rw [String.utf8EncodeChar, toNat_ofNat valid]
    simp only [if_neg (show ¬ n ≤ 0x7f by omega),
      if_neg (show ¬ n ≤ 0x7ff by omega), if_pos (show n ≤ 0xffff by omega),
      trailing, List.singleton_append, Nat.add_one_sub_one, Nat.pow_zero,
      Nat.div_one]
    rw [ofNat_eq_of_toNat (b := b) (by omega),
      ofNat_eq_of_toNat (b := next) (by omega)]

theorem sound_of_four {b : UInt8} {value low high : Nat}
    (first : b.toNat = 0xF0 + value) (small : value ≤ 4)
    (least : 0x80 ≤ low) (most : high ≤ 0xBF) (long : value = 0 → 0x90 ≤ low)
    (character : value = 4 → high ≤ 0x8F) :
    Partial.Sound ⟨[b], value, 3, low, high⟩ where
  low := least
  high := by
    intro c member
    obtain rfl := List.mem_singleton.1 member
    omega
  encodes := by
    intro n next above below bits
    simp only [Nat.add_one_sub_one, Nat.reducePow] at bits above below
    have valid : n.isValidChar := by
      simp only [Nat.isValidChar]
      omega
    rw [String.utf8EncodeChar, toNat_ofNat valid]
    simp only [if_neg (show ¬ n ≤ 0x7f by omega),
      if_neg (show ¬ n ≤ 0x7ff by omega), if_neg (show ¬ n ≤ 0xffff by omega),
      trailing, List.singleton_append, Nat.add_one_sub_one, Nat.pow_zero,
      Nat.pow_one, Nat.div_one]
    rw [ofNat_eq_of_toNat (b := b) (by omega),
      ofNat_eq_of_toNat (b := next) (by omega)]

/-! What a reader holds and what it gives out are the bytes it was given. -/

def Reader.held : Reader → Bytes
  | none => []
  | some p => p.bytes

def Reader.Sound (reader : Reader) : Prop := ∀ p ∈ reader, p.Sound

def Piece.bytes : Piece → Bytes
  | .char c => String.utf8EncodeChar c
  | .stray bytes => bytes

def Piece.Escapable : Piece → Prop
  | .char _ => True
  | .stray bytes => ∀ b ∈ bytes, 0x80 ≤ b.toNat

/-- What a reader does with bytes: it gives out pieces and goes on. -/
structure Accounts (reader : Reader) (bytes : Bytes)
    (result : List Piece × Reader) : Prop where
  sound : result.2.Sound
  bytes : result.1.flatMap Piece.bytes ++ result.2.held = reader.held ++ bytes
  escapable : ∀ piece ∈ result.1, piece.Escapable

theorem accounts_of_partial {reader : Reader} {bytes : Bytes} {p : Partial}
    (sound : p.Sound) (equality : p.bytes = reader.held ++ bytes) :
    Accounts reader bytes ([], some p) where
  sound := by
    intro q member
    cases member
    exact sound
  bytes := equality
  escapable := by simp

theorem accounts_of_piece {reader : Reader} {bytes : Bytes} {piece : Piece}
    (equality : piece.bytes = reader.held ++ bytes)
    (escapable : piece.Escapable) : Accounts reader bytes ([piece], none) where
  sound := by
    intro q member
    cases member
  bytes := by simpa [Reader.held] using equality
  escapable := by simpa using escapable

theorem accounts_lead (b : UInt8) : Accounts none [b] (lead b) := by
  have bound := b.toNat_lt
  simp only [lead]
  split
  · next ascii =>
      refine accounts_of_piece ?_ trivial
      have valid : b.toNat.isValidChar := by
        simp only [Nat.isValidChar]
        omega
      rw [Piece.bytes, String.utf8EncodeChar, toNat_ofNat valid]
      simp only [if_pos (show b.toNat ≤ 0x7f by omega), UInt8.ofNat_toNat]
      rfl
  split
  · exact accounts_of_piece rfl (by
      intro c member
      obtain rfl := List.mem_singleton.1 member
      omega)
  split
  · exact accounts_of_partial (sound_of_two (by omega) (by omega)) rfl
  split
  · exact accounts_of_partial (sound_of_three (by omega) (by omega)
      (by omega) (by omega) (by omega) (by omega)) rfl
  split
  · exact accounts_of_partial (sound_of_three (by omega) (by omega)
      (by omega) (by omega) (by omega) (by omega)) rfl
  split
  · exact accounts_of_partial (sound_of_three (by omega) (by omega)
      (by omega) (by omega) (by omega) (by omega)) rfl
  split
  · exact accounts_of_partial (sound_of_four (by omega) (by omega)
      (by omega) (by omega) (by omega) (by omega)) rfl
  split
  · exact accounts_of_partial (sound_of_four (by omega) (by omega)
      (by omega) (by omega) (by omega) (by omega)) rfl
  split
  · exact accounts_of_partial (sound_of_four (by omega) (by omega)
      (by omega) (by omega) (by omega) (by omega)) rfl
  · exact accounts_of_piece rfl (by
      intro c member
      obtain rfl := List.mem_singleton.1 member
      omega)

/-- One more byte of a character that is not finished by it. -/
theorem Partial.Sound.next {p : Partial} (sound : p.Sound) {b : UInt8}
    (low : p.low ≤ b.toNat) (high : b.toNat ≤ p.high) (more : 1 < p.due) :
    Partial.Sound ⟨p.bytes ++ [b], p.value * 64 + (b.toNat - 0x80), p.due - 1,
      0x80, 0xBF⟩ where
  low := Nat.le_refl _
  high := by
    intro c member
    rcases List.mem_append.1 member with old | new
    · exact sound.high c old
    · obtain rfl := List.mem_singleton.1 new
      exact Nat.le_trans sound.low low
  encodes := by
    intro n next above below bits
    obtain ⟨due, equality⟩ : ∃ due, p.due = due + 2 := ⟨p.due - 2, by omega⟩
    simp only [equality, Nat.add_one_sub_one] at above below bits ⊢
    have shifted : n / 64 ^ (due + 1) = p.value * 64 + (b.toNat - 0x80) := by
      rw [Nat.pow_succ, ← Nat.div_div_eq_div_mul]
      omega
    have last : UInt8.ofNat (n / 64 ^ due % 64 + 0x80) = next :=
      ofNat_eq_of_toNat (by omega)
    have encoded := sound.encodes low high (n := n) (by
      rw [equality]
      exact shifted)
    rw [encoded, equality, Nat.add_one_sub_one, trailing, last,
      List.append_assoc, List.singleton_append]

theorem accounts_step {reader : Reader} (sound : reader.Sound) (b : UInt8) :
    Accounts reader [b] (step reader b) := by
  cases reader with
  | none => exact accounts_lead b
  | some p =>
      have held : p.Sound := sound p rfl
      simp only [step]
      split
      · next bounds =>
          split
          · next finished =>
              refine accounts_of_piece ?_ trivial
              have due : p.due - 1 = 0 := by omega
              have encoded := held.encodes bounds.1 bounds.2
                (n := p.value * 64 + (b.toNat - 0x80)) (by
                  rw [due, Nat.pow_zero, Nat.div_one])
              rw [Piece.bytes, encoded, due]
              rfl
          · next unfinished =>
              exact accounts_of_partial
                (held.next bounds.1 bounds.2 (by omega)) rfl
      · have fresh := accounts_lead b
        exact {
          sound := fresh.sound
          bytes := by
            simp only [List.flatMap_cons, List.append_assoc, fresh.bytes]
            rfl
          escapable := by
            intro piece member
            rcases List.mem_cons.1 member with rfl | other
            · exact held.high
            · exact fresh.escapable piece other }

theorem accounts_run {reader : Reader} (sound : reader.Sound) (bytes : Bytes) :
    Accounts reader bytes (run reader bytes) := by
  induction bytes generalizing reader with
  | nil => exact ⟨sound, by simp [run], by simp [run]⟩
  | cons b bytes ih =>
      have first := accounts_step sound b
      have rest := ih first.sound
      exact {
        sound := rest.sound
        bytes := by
          rw [run, List.flatMap_append, List.append_assoc, rest.bytes,
            ← List.append_assoc, first.bytes, List.append_assoc,
            List.singleton_append]
        escapable := by
          intro piece member
          rcases List.mem_append.1 member with before | after
          · exact first.escapable piece before
          · exact rest.escapable piece after }

theorem Reader.Sound.finish {reader : Reader} (sound : reader.Sound) :
    (Utf8.finish reader).flatMap Piece.bytes = reader.held ∧
      ∀ piece ∈ Utf8.finish reader, piece.Escapable := by
  cases reader with
  | none => simp [Utf8.finish, Reader.held]
  | some p =>
      simp only [Utf8.finish, Reader.held, List.flatMap_singleton,
        List.mem_singleton, forall_eq]
      exact ⟨rfl, (sound p rfl).high⟩

theorem flatMap_bytes_pieces (bytes : Bytes) :
    (pieces bytes).flatMap Piece.bytes = bytes ∧
      ∀ piece ∈ pieces bytes, piece.Escapable := by
  have start : Reader.Sound none := by
    intro p member
    cases member
  have whole := accounts_run start bytes
  obtain ⟨finished, escapable⟩ := whole.sound.finish
  constructor
  · rw [pieces, List.flatMap_append, finished, whole.bytes]
    rfl
  · intro piece member
    rcases List.mem_append.1 member with before | after
    · exact whole.escapable piece before
    · exact escapable piece after

/-! Writing goes code point by code point. -/

theorem encode?_append (s t : Text) :
    encode? (s ++ t) =
      (encode? s).bind fun front => (encode? t).map (front ++ ·) := by
  induction s with
  | nil => simp [encode?]
  | cons c s ih =>
      simp only [List.cons_append, encode?, ih]
      cases encodePoint? c <;> cases encode? s <;> cases encode? t <;> simp

theorem encode?_append_of_eq_some {s t : Text} {front back : Bytes}
    (first : encode? s = some front) (second : encode? t = some back) :
    encode? (s ++ t) = some (front ++ back) := by
  rw [encode?_append, first, second]
  rfl

theorem encode?_append_eq_some {s t : Text} {data : Bytes}
    (encodes : encode? (s ++ t) = some data) :
    ∃ front back, encode? s = some front ∧ encode? t = some back ∧
      data = front ++ back := by
  rw [encode?_append] at encodes
  obtain ⟨front, first, rest⟩ := Option.bind_eq_some_iff.1 encodes
  obtain ⟨back, second, rfl⟩ := Option.map_eq_some_iff.1 rest
  exact ⟨front, back, first, second, rfl⟩

theorem encodePoint?_escapeByte {b : UInt8} (high : 0x80 ≤ b.toNat) :
    encodePoint? (escapeByte b) = some [b] := by
  have := b.toNat_lt
  simp only [escapeByte, encodePoint?]
  rw [if_pos (by omega), Nat.add_sub_cancel_left, UInt8.ofNat_toNat]

theorem encode?_map_escapeByte {bytes : Bytes}
    (high : ∀ b ∈ bytes, 0x80 ≤ b.toNat) :
    encode? (bytes.map escapeByte) = some bytes := by
  induction bytes with
  | nil => rfl
  | cons b bytes ih =>
      have rest := ih fun c member => high c (by simp [member])
      simp [encode?, encodePoint?_escapeByte (high b (by simp)), rest]

theorem encode?_escaped {piece : Piece} (escapable : piece.Escapable) :
    encode? piece.escaped = some piece.bytes := by
  cases piece with
  | char c => simp [Piece.escaped, encode?, encodePoint?, Piece.bytes]
  | stray bytes => exact encode?_map_escapeByte escapable

theorem encode?_flatMap_escaped {all : List Piece}
    (escapable : ∀ piece ∈ all, piece.Escapable) :
    encode? (all.flatMap Piece.escaped) = some (all.flatMap Piece.bytes) := by
  induction all with
  | nil => rfl
  | cons piece all ih =>
      rw [List.flatMap_cons, List.flatMap_cons]
      exact encode?_append_of_eq_some
        (encode?_escaped (escapable piece (by simp)))
        (ih fun other member => escapable other (by simp [member]))

theorem encode?_decodeEscaping (bytes : Bytes) :
    encode? (decodeEscaping bytes) = some bytes := by
  obtain ⟨same, escapable⟩ := flatMap_bytes_pieces bytes
  rw [decodeEscaping, encode?_flatMap_escaped escapable, same]

theorem encode?_of_notLone {s : Text} (notLone : ∀ c ∈ s, c.isLone = false) :
    ∃ data, encode? s = some data := by
  induction s with
  | nil => exact ⟨[], rfl⟩
  | cons c s ih =>
      obtain ⟨back, encoded⟩ := ih fun d member => notLone d (by simp [member])
      cases c with
      | lone offset => exact nomatch notLone (.lone offset) (List.mem_cons_self ..)
      | char c =>
          exact ⟨String.utf8EncodeChar c ++ back, by
            simp [encode?, encodePoint?, encoded]⟩

/-! Reading with stray bytes replaced. -/

theorem decodeReplacing_append {front : Bytes}
    (whole : (run none front).2 = none) (back : Bytes) :
    decodeReplacing (front ++ back) =
      decodeReplacing front ++ decodeReplacing back := by
  simp only [decodeReplacing, pieces, run_append, whole, finish,
    List.append_nil, List.append_assoc, List.flatMap_append]

/-! A character's own encoding is read back as that character. -/

theorem toNat_ofNat_of_lt {n : Nat} (small : n < 0x100) :
    (UInt8.ofNat n).toNat = n := by
  rw [UInt8.toNat_ofNat']
  exact Nat.mod_eq_of_lt small

theorem step_trailing {p : Partial} {k : Nat} (small : k < 64)
    (low : p.low ≤ k + 0x80) (high : k + 0x80 ≤ p.high) :
    step (some p) (.ofNat (k + 0x80)) =
      if p.due ≤ 1 then ([.char (.ofNat (p.value * 64 + k))], none)
      else ([], some ⟨p.bytes ++ [.ofNat (k + 0x80)], p.value * 64 + k,
        p.due - 1, 0x80, 0xBF⟩) := by
  have worth := toNat_ofNat_of_lt (n := k + 0x80) (by omega)
  simp only [step, worth, low, high, and_self, if_true, Nat.add_sub_cancel]

theorem shifted (n count : Nat) :
    n / 64 ^ (count + 1) * 64 + n / 64 ^ count % 64 = n / 64 ^ count := by
  rw [Nat.pow_succ, ← Nat.div_div_eq_div_mul]
  omega

/-- The bounds matter for the first byte only: after it any group of bits may
follow. -/
theorem run_trailing (count : Nat) {n : Nat} {p : Partial} (due : p.due = count + 1)
    (value : p.value = n / 64 ^ (count + 1))
    (low : p.low ≤ n / 64 ^ count % 64 + 0x80)
    (high : n / 64 ^ count % 64 + 0x80 ≤ p.high) :
    run (some p) (trailing (count + 1) n) = ([.char (.ofNat n)], none) := by
  have small (count : Nat) : n / 64 ^ count % 64 < 64 := Nat.mod_lt _ (by decide)
  induction count generalizing p with
  | zero =>
      rw [trailing, run, step_trailing (small 0) low high, if_pos (by omega), value,
        shifted, Nat.pow_zero, Nat.div_one]
      rfl
  | succ count ih =>
      have again := ih (p := ⟨p.bytes ++ [.ofNat (n / 64 ^ (count + 1) % 64 + 0x80)],
        n / 64 ^ (count + 1), count + 1, 0x80, 0xBF⟩) rfl rfl (Nat.le_add_left ..)
        (Nat.add_le_add_right (Nat.le_of_lt_succ (small count)) 0x80)
      rw [trailing, run, step_trailing (small (count + 1)) low high,
        if_neg (by omega), value, shifted, due]
      simp only [Nat.add_sub_cancel, again]
      rfl

theorem lead_two {k : Nat} (least : 2 ≤ k) (most : k < 0x20) :
    lead (.ofNat (k + 0xC0)) =
      ([], some ⟨[.ofNat (k + 0xC0)], k, 1, 0x80, 0xBF⟩) := by
  have worth := toNat_ofNat_of_lt (n := k + 0xC0) (by omega)
  simp only [lead, worth, Nat.add_sub_cancel]
  rw [if_neg (by omega), if_neg (by omega), if_pos (by omega)]

theorem lead_three {k : Nat} (most : k < 0x10) :
    lead (.ofNat (k + 0xE0)) = ([], some ⟨[.ofNat (k + 0xE0)], k, 2,
      if k = 0 then 0xA0 else 0x80, if k = 13 then 0x9F else 0xBF⟩) := by
  have worth := toNat_ofNat_of_lt (n := k + 0xE0) (by omega)
  simp only [lead, worth, Nat.add_sub_cancel]
  rw [if_neg (by omega), if_neg (by omega), if_neg (by omega)]
  split
  · next zero =>
      obtain rfl : k = 0 := by omega
      rfl
  · split
    · next thirteen =>
        obtain rfl : k = 13 := by omega
        rfl
    · rw [if_pos (by omega), if_neg (by omega), if_neg (by omega)]

theorem lead_four {k : Nat} (most : k ≤ 4) :
    lead (.ofNat (k + 0xF0)) = ([], some ⟨[.ofNat (k + 0xF0)], k, 3,
      if k = 0 then 0x90 else 0x80, if k = 4 then 0x8F else 0xBF⟩) := by
  have worth := toNat_ofNat_of_lt (n := k + 0xF0) (by omega)
  simp only [lead, worth, Nat.add_sub_cancel]
  rw [if_neg (by omega), if_neg (by omega), if_neg (by omega), if_neg (by omega),
    if_neg (by omega), if_neg (by omega)]
  split
  · next zero =>
      obtain rfl : k = 0 := by omega
      rfl
  · split
    · next four =>
        obtain rfl : k = 4 := by omega
        rfl
    · rw [if_pos (by omega), if_neg (by omega), if_neg (by omega)]

theorem run_lead {b : UInt8} {p : Partial} (leads : lead b = ([], some p))
    {count n : Nat} (ends : run (some p) (trailing count n) = ([.char (.ofNat n)], none)) :
    run none (b :: trailing count n) = ([.char (.ofNat n)], none) := by
  rw [run, step, leads]
  dsimp only
  rw [ends]
  rfl

theorem trailing_one (n : Nat) : trailing 1 n = [.ofNat (n % 64 + 0x80)] := by
  simp [trailing]

theorem trailing_two (n : Nat) :
    trailing 2 n = .ofNat (n / 64 % 64 + 0x80) :: trailing 1 n := by
  simp [trailing]

theorem trailing_three (n : Nat) :
    trailing 3 n = .ofNat (n / 4096 % 64 + 0x80) :: trailing 2 n := by
  simp [trailing]

theorem run_utf8EncodeChar (c : Char) :
    run none (String.utf8EncodeChar c) = ([.char c], none) := by
  have valid : c.toNat < 0xD800 ∨ 0xDFFF < c.toNat ∧ c.toNat < 0x110000 := c.valid
  have back := c.ofNat_toNat
  generalize whole : c.toNat = n at valid back
  rw [← back]
  have same : (Char.ofNat n).val.toNat = n := by
    rw [back]
    exact whole
  rw [String.utf8EncodeChar, same, ← trailing_one, ← trailing_two, ← trailing_three]
  split
  · next one =>
      have worth := toNat_ofNat_of_lt (n := n) (by omega)
      simp only [run, step, lead, worth, if_pos (show n < 0x80 by omega),
        List.append_nil]
  · split
    · next one two =>
        rw [Nat.mod_eq_of_lt (show n / 64 < 32 by omega)]
        have leads := lead_two (k := n / 64) (by omega) (by omega)
        exact run_lead leads (run_trailing 0 rfl (by simp) (by simp)
          (by simp; omega))
    · split
      · next one two three =>
          rw [Nat.mod_eq_of_lt (show n / 4096 < 16 by omega)]
          have leads := lead_three (k := n / 4096) (by omega)
          apply run_lead leads
          apply run_trailing 1 rfl (by simp)
          · simp only [Nat.pow_one]
            split <;> omega
          · simp only [Nat.pow_one]
            split <;> omega
      · next one two three =>
          rw [Nat.mod_eq_of_lt (show n / 262144 < 8 by omega)]
          have leads := lead_four (k := n / 262144) (by omega)
          apply run_lead leads
          apply run_trailing 2 rfl (by simp)
          · simp only [Nat.reducePow]
            split <;> omega
          · simp only [Nat.reducePow]
            split <;> omega

/-- A text of characters is what its encoding reads as. -/
theorem decodeReplacing_encode? {s : Text} (notLone : ∀ c ∈ s, c.isLone = false)
    {data : Bytes} (encodes : encode? s = some data) : decodeReplacing data = s := by
  induction s generalizing data with
  | nil =>
      cases encodes
      rfl
  | cons c s ih =>
      obtain ⟨front, back, first, rest, rfl⟩ :=
        encode?_append_eq_some (show encode? ([c] ++ s) = some data from encodes)
      have later := ih (fun d member => notLone d (List.mem_cons_of_mem c member)) rest
      cases c with
      | lone offset => exact nomatch notLone (.lone offset) List.mem_cons_self
      | char c =>
          have own : front = String.utf8EncodeChar c := by
            simp only [encode?, encodePoint?, Option.pure_def, Option.bind_eq_bind,
              Option.bind_some, List.append_nil, Option.some.injEq] at first
            exact first.symm
          have read := run_utf8EncodeChar c
          rw [own, decodeReplacing_append (by rw [read]), later, decodeReplacing, pieces,
            read]
          rfl

end Breadboard.Utf8
