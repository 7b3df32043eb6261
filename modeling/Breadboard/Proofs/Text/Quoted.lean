import Breadboard.Proofs.Text.Utf8
import Breadboard.Text.Literal
import Breadboard.Text.Quoted

/-! Quoting and reading are written in two grammars: what is quoted is an
escape per code point, what is read is a string literal. They agree on each
code point whatever stands after it, so a quoted text reads back as itself. -/

namespace Breadboard

/-! Hexadecimal digits, as written and as read. -/

theorem Text.length_hex {width n : Nat} (hwidth : 0 < width)
    (bound : n < 16 ^ width) : (Text.hex width n).length = width := by
  have short : (Nat.toDigits 16 n).length ≤ width :=
    (Nat.length_toDigits_le_iff (by decide) hwidth).2 bound
  simp only [Text.hex, List.length_map, List.length_append,
    List.length_replicate]
  omega

namespace Literal

theorem hexDigit?_digitChar {d : Nat} (bound : d < 16) :
    (CodePoint.char d.digitChar).hexDigit? = some d := by
  have all : ∀ d : Fin 16,
      (CodePoint.char d.val.digitChar).hexDigit? = some d.val := by decide
  exact all ⟨d, bound⟩

theorem hexNumber?_concat (digits : Text) (c : CodePoint) :
    hexNumber? (digits ++ [c]) =
      (hexNumber? digits).bind fun n => c.hexDigit?.map (16 * n + ·) := by
  rw [hexNumber?, List.foldlM_append]
  refine congrArg (Option.bind (hexNumber? digits)) (funext fun n => ?_)
  cases digit : c.hexDigit? <;> simp [digit]

theorem hexNumber?_zeros (count : Nat) (digits : Text) :
    hexNumber? (List.replicate count (.char '0') ++ digits) =
      hexNumber? digits := by
  induction count with
  | zero => rfl
  | succ count ih =>
      rw [List.replicate_succ, List.cons_append]
      exact ih

theorem hexNumber?_toDigits (n : Nat) :
    hexNumber? ((Nat.toDigits 16 n).map .char) = some n := by
  induction n using Nat.strongRecOn with
  | _ n ih =>
      rw [Nat.toDigits_eq_if (by decide)]
      split
      · next small =>
          simp [hexNumber?, hexDigit?_digitChar small]
      · next large =>
          have digit : n % 16 < 16 := Nat.mod_lt n (by decide)
          rw [List.map_append, List.map_singleton, hexNumber?_concat,
            ih (n / 16) (by omega), hexDigit?_digitChar digit]
          exact congrArg some (Nat.div_add_mod n 16)

theorem hexNumber?_hex (width n : Nat) :
    hexNumber? (Text.hex width n) = some n := by
  rw [Text.hex, List.map_append, List.map_replicate, hexNumber?_zeros,
    hexNumber?_toDigits]

/-! How one code point is spelled between double quotes. -/

structure Plain (c : CodePoint) : Prop where
  notLone : c.isLone = false
  printable : 0x20 ≤ c.toNat
  notQuote : c ≠ .char '\x22'
  notBackslash : c ≠ .char '\\'

/-- How a code point may be spelled: by itself, by a letter after a backslash,
or by its number in four hexadecimal digits. -/
inductive Spelling : CodePoint → Text → Prop
  | plain (plain : Plain c) : Spelling c [c]
  | letter (known : letterEscape? l = some d)
      (other : l ∉ ['\n', 'x', 'u', 'U', 'N']) (printable : 0x20 ≤ l.toNat) :
      Spelling (.char d) [.char '\\', .char l]
  | number (point : CodePoint.ofNat? n = some c) (bound : n < 0x10000) :
      Spelling c (.char '\\' :: .char 'u' :: Text.hex 4 n)

theorem ofNat?_lone (offset : Fin 0x800) :
    CodePoint.ofNat? (0xD800 + offset.val) = some (.lone offset) := by
  have := offset.isLt
  have invalid : ¬ (0xD800 + offset.val).isValidChar := by
    simp only [Nat.isValidChar]
    omega
  rw [CodePoint.ofNat?, dif_neg invalid, dif_pos (by omega)]
  simp only [Nat.add_sub_cancel_left]

theorem ofNat?_char (c : Char) : CodePoint.ofNat? c.toNat = some (.char c) := by
  exact dif_pos c.valid

theorem spelling_escape (c : CodePoint) : Spelling c (Quoted.escape c) := by
  cases c with
  | lone offset => exact .number (ofNat?_lone offset) (by omega)
  | char c =>
      simp only [Quoted.escape]
      iterate 7
        split
        · next equality =>
            exact equality ▸ .letter rfl (by decide) (by decide)
      split
      · next control => exact .number (ofNat?_char c) (by omega)
      · next notQuote notBackslash _ _ _ _ _ printable =>
          exact .plain {
            notLone := rfl
            printable := Nat.le_of_not_lt printable
            notQuote := fun equality => notQuote (CodePoint.char.inj equality)
            notBackslash := fun equality =>
              notBackslash (CodePoint.char.inj equality) }

theorem digit_of_mem_toDigits {n : Nat} {c : Char}
    (member : c ∈ Nat.toDigits 16 n) : ∃ d, d < 16 ∧ c = d.digitChar := by
  induction n using Nat.strongRecOn with
  | _ n ih =>
      rw [Nat.toDigits_eq_if (by decide)] at member
      split at member
      · next small => exact ⟨n, small, List.mem_singleton.1 member⟩
      · rcases List.mem_append.1 member with front | last
        · exact ih (n / 16) (by omega) front
        · exact ⟨n % 16, Nat.mod_lt n (by decide), List.mem_singleton.1 last⟩

theorem plain_of_mem_hex {width n : Nat} {c : CodePoint}
    (member : c ∈ Text.hex width n) : Plain c := by
  simp only [Text.hex, List.mem_map, List.mem_append] at member
  obtain ⟨letter, zero | digit, rfl⟩ := member
  · obtain rfl := List.eq_of_mem_replicate zero
    exact ⟨rfl, by decide, by decide, by decide⟩
  · obtain ⟨d, bound, rfl⟩ := digit_of_mem_toDigits digit
    have all : ∀ d : Fin 16, 0x20 ≤ (CodePoint.char d.val.digitChar).toNat ∧
        CodePoint.char d.val.digitChar ≠ .char '\x22' ∧
        CodePoint.char d.val.digitChar ≠ .char '\\' := by decide
    obtain ⟨printable, notQuote, notBackslash⟩ := all ⟨d, bound⟩
    exact ⟨rfl, printable, notQuote, notBackslash⟩

theorem Spelling.printable {c d : CodePoint} {out : Text}
    (spelling : Spelling c out) (member : d ∈ out) :
    d.isLone = false ∧ 0x20 ≤ d.toNat := by
  cases spelling with
  | plain plain =>
      obtain rfl := List.mem_singleton.1 member
      exact ⟨plain.notLone, plain.printable⟩
  | letter _ _ printable =>
      simp only [List.mem_cons, List.not_mem_nil, or_false] at member
      rcases member with rfl | rfl
      · exact ⟨rfl, by decide⟩
      · exact ⟨rfl, printable⟩
  | number _ _ =>
      simp only [List.mem_cons] at member
      rcases member with rfl | rfl | digit
      · exact ⟨rfl, by decide⟩
      · exact ⟨rfl, by decide⟩
      · exact ⟨(plain_of_mem_hex digit).notLone,
          (plain_of_mem_hex digit).printable⟩

theorem Spelling.opens {c : CodePoint} {out : Text}
    (spelling : Spelling c out) :
    ∃ first rest, out = first :: rest ∧ first ≠ .char '\x22' := by
  cases spelling with
  | plain plain => exact ⟨c, [], rfl, plain.notQuote⟩
  | letter => exact ⟨_, _, rfl, by decide⟩
  | number => exact ⟨_, _, rfl, by decide⟩

/-! Reading the body of a literal, one spelling after another. -/

def doubleQuote : Fence := ⟨.char '\x22', false⟩

theorem body?_cons_of_plain {c : CodePoint} (plain : Plain c) (s : Text) :
    body? doubleQuote (c :: s) =
      (body? doubleQuote s).map fun (b, rest) => (c :: b, rest) := by
  have notNewline : c ≠ .char '\n' := by
    rintro rfl
    exact absurd plain.printable (by decide)
  have opened : doubleQuote.close? (c :: s) = none :=
    if_pos plain.notQuote
  rw [body?, opened]
  · simp only [notNewline, false_and, if_false]
  · intro equality
    exact absurd equality plain.notBackslash
  · intro _ _ equality
    exact absurd equality plain.notBackslash

theorem body?_append_of_plain {run : Text} (plain : ∀ c ∈ run, Plain c)
    (s : Text) :
    body? doubleQuote (run ++ s) =
      (body? doubleQuote s).map fun (b, rest) => (run ++ b, rest) := by
  induction run with
  | nil => simp
  | cons c run ih =>
      rw [List.cons_append, body?_cons_of_plain (plain c (by simp)),
        ih fun d member => plain d (by simp [member]), Option.map_map]
      rfl

theorem Spelling.body? {c : CodePoint} {out : Text}
    (spelling : Spelling c out) (s : Text) :
    body? doubleQuote (out ++ s) =
      (Literal.body? doubleQuote s).map fun (b, rest) => (out ++ b, rest) := by
  cases spelling with
  | plain plain => exact body?_cons_of_plain plain s
  | letter => exact Literal.body?.eq_3 ..
  | number =>
      rw [List.cons_append, List.cons_append, Literal.body?,
        body?_append_of_plain fun _ => plain_of_mem_hex, Option.map_map]
      rfl

theorem body?_flatMap_escape (s rest : Text) :
    body? doubleQuote (s.flatMap Quoted.escape ++ .char '\x22' :: rest) =
      some (s.flatMap Quoted.escape, rest) := by
  induction s with
  | nil => rfl
  | cons c s ih =>
      rw [List.flatMap_cons, List.append_assoc, (spelling_escape c).body?, ih]
      rfl

theorem unescape?_cons_of_plain {c : CodePoint} (plain : Plain c) (s : Text) :
    unescape? (c :: s) = (unescape? s).map (c :: ·) := by
  rw [unescape?]
  intro equality
  exact absurd equality plain.notBackslash

theorem unescape?_backslash {s out rest : Text}
    (escaped : escape? s = some (out, rest)) :
    unescape? (.char '\\' :: s) = (unescape? rest).map (out ++ ·) := by
  rw [unescape?]
  split
  · next missing => simp [escaped] at missing
  · next found =>
      rw [escaped] at found
      cases found
      rfl

theorem escape?_letter {l d : Char} (known : letterEscape? l = some d)
    (other : l ∉ ['\n', 'x', 'u', 'U', 'N']) (s : Text) :
    escape? (.char l :: s) = some ([.char d], s) := by
  simp only [List.mem_cons, List.not_mem_nil, or_false, not_or] at other
  obtain ⟨newline, two, four, eight, named⟩ := other
  simp only [escape?, newline, two, four, eight, named, if_false, known]

theorem escape?_number {n : Nat} {c : CodePoint}
    (point : CodePoint.ofNat? n = some c) (bound : n < 0x10000) (s : Text) :
    escape? (.char 'u' :: (Text.hex 4 n ++ s)) = some ([c], s) := by
  have width : (Text.hex 4 n).length = 4 :=
    Text.length_hex (by decide) bound
  have taken : (Text.hex 4 n ++ s).take 4 = Text.hex 4 n := by
    rw [List.take_append_of_le_length (by omega), List.take_of_length_le (by omega)]
  have dropped : (Text.hex 4 n ++ s).drop 4 = s := by
    rw [List.drop_append_of_le_length (by omega), List.drop_of_length_le (by omega),
      List.nil_append]
  have long : ¬ (Text.hex 4 n ++ s).length < 4 := by
    rw [List.length_append]
    omega
  have digits : numbered? 4 (Text.hex 4 n ++ s) = some ([c], s) := by
    rw [numbered?, if_neg long, taken, dropped, hexNumber?_hex,
      Option.bind_some, point, Option.map_some]
  simpa [escape?] using digits

theorem Spelling.unescape? {c : CodePoint} {out : Text}
    (spelling : Spelling c out) (s : Text) :
    Literal.unescape? (out ++ s) = (Literal.unescape? s).map (c :: ·) := by
  cases spelling with
  | plain plain => exact unescape?_cons_of_plain plain s
  | letter known other => exact unescape?_backslash (escape?_letter known other s)
  | number point bound => exact unescape?_backslash (escape?_number point bound s)

theorem unescape?_flatMap_escape (s : Text) :
    unescape? (s.flatMap Quoted.escape) = some s := by
  induction s with
  | nil => rw [List.flatMap_nil, unescape?]
  | cons c s ih =>
      rw [List.flatMap_cons, (spelling_escape c).unescape?, ih]
      rfl

/-! A quoted text is one literal and nothing else. -/

theorem printable_of_mem_encode {s : Text} {c : CodePoint}
    (member : c ∈ Quoted.encode s) : c.isLone = false ∧ 0x20 ≤ c.toNat := by
  have quote : ∀ c ∈ text "\"", c.isLone = false ∧ 0x20 ≤ c.toNat := by decide
  simp only [Quoted.encode, List.mem_append, List.mem_flatMap] at member
  rcases member with (front | ⟨d, _, inner⟩) | back
  · exact quote c front
  · exact (spelling_escape d).printable inner
  · exact quote c back

theorem encode_eq_cons (s : Text) :
    Quoted.encode s =
      .char '\x22' :: (s.flatMap Quoted.escape ++ [.char '\x22']) := rfl

theorem opening?_quote (s : Text) :
    opening? (.char '\x22' :: s) = some (false, .char '\x22' :: s) := by
  cases s with
  | nil => rfl
  | cons c s => cases c <;> rfl

/-- The first quote of a quoted text is not the first of three. -/
theorem take_three_encode (s : Text) :
    ((Quoted.encode s).take 3 ==
      [.char '\x22', .char '\x22', .char '\x22']) = false := by
  rw [encode_eq_cons, beq_eq_false_iff_ne]
  cases s with
  | nil => decide
  | cons c s =>
      obtain ⟨first, rest, equality, notQuote⟩ := (spelling_escape c).opens
      rw [List.flatMap_cons, equality]
      intro three
      simp only [List.cons_append, List.take_succ_cons, List.cons.injEq] at three
      exact notQuote three.2.1

theorem one?_encode (s : Text) : one? (Quoted.encode s) = some (s, []) := by
  have opened : opening? (Quoted.encode s) = some (false, Quoted.encode s) :=
    opening?_quote _
  have first : (Quoted.encode s).head? = some (.char '\x22') := rfl
  have read : body? ⟨.char '\x22', false⟩ ((Quoted.encode s).drop 1) =
      some (s.flatMap Quoted.escape, []) := body?_flatMap_escape s []
  simp only [one?, opened, first, take_three_encode, Bool.false_eq_true,
    if_false, Option.bind_eq_bind, Option.bind_some, read,
    unescape?_flatMap_escape, Option.pure_def]

theorem join?_encode (most : Nat) (s : Text) :
    join? (most + 1) (Quoted.encode s) = some s := by
  have finished : join? most [] = some [] := by
    cases most <;> rfl
  have stays : skipSpace (Quoted.encode s) = Quoted.encode s := rfl
  have unfinished : onlyComments false (Quoted.encode s) = false := rfl
  simp [join?, stays, unfinished, one?_encode, finished]

theorem unifyLines_of_printable {s : Text} (printable : ∀ c ∈ s, 0x20 ≤ c.toNat) :
    Text.unifyLines s = s := by
  induction s with
  | nil => rfl
  | cons c s ih =>
      have notReturn : c ≠ .char '\r' := by
        rintro rfl
        exact absurd (printable _ (List.mem_cons_self ..)) (by decide)
      rw [Text.unifyLines, ih fun d member => printable d (by simp [member])]
      · intro _ equality
        exact absurd equality notReturn
      · intro equality
        exact absurd equality notReturn

theorem read?_encode (s : Text) : read? (Quoted.encode s) = some s := by
  have clean : (Quoted.encode s).any (fun c => c.isLone || c.toNat == 0) = false := by
    rw [List.any_eq_false]
    intro c member
    obtain ⟨notLone, printable⟩ := printable_of_mem_encode member
    simp only [notLone, Bool.false_or, beq_iff_eq]
    omega
  have unified : Text.unifyLines (Quoted.encode s) = Quoted.encode s :=
    unifyLines_of_printable fun c member => (printable_of_mem_encode member).2
  rw [read?, clean, unified]
  exact join?_encode _ s

theorem decode_encode (s : Text) : decode (Quoted.encode s) = s := by
  have long : 2 ≤ (Quoted.encode s).length := by
    rw [encode_eq_cons]
    simp
  have last : (Quoted.encode s).getLast? = some (.char '\x22') := by
    rw [encode_eq_cons, ← List.cons_append, List.getLast?_concat]
  rw [decode, if_pos ⟨long, rfl, last⟩, read?_encode]
  rfl

end Literal

/-- A text comes back from its quoted form, which is printable throughout and
can be written as bytes whatever surrogates the text has. -/
theorem Quoted.encode_reversible (s : Text) :
    Literal.decode (Quoted.encode s) = s ∧
      (∀ c ∈ Quoted.encode s, c.isLone = false ∧ 0x20 ≤ c.toNat) ∧
      ∃ data, Utf8.encode? (Quoted.encode s) = some data :=
  ⟨Literal.decode_encode s, fun _ => Literal.printable_of_mem_encode,
    Utf8.encode?_of_notLone fun _ member =>
      (Literal.printable_of_mem_encode member).1⟩

end Breadboard
