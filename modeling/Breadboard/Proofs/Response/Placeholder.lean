import Breadboard.Proofs.Text.Part
import Breadboard.Response.Placeholder
import Mathlib.Data.List.TakeDrop
import Mathlib.Data.Option.NAry

/-! The five forms of placeholder, told from the text between their braces,
and what the recognisers make of them. A value that is put in has no braces,
so it neither opens nor closes anything. -/

namespace Breadboard

namespace Placeholder

def openBrace : CodePoint := .char '\x7b'

def closeBrace : CodePoint := .char '\x7d'

def braced (inner : Text) : Text := opening ++ inner ++ closing

def singleWords : List String :=
  ["dac_voltage", "dac_value", "adc_voltage", "gpio_value"]

inductive Form : Text → Prop
  | named (known : word ∈ singleWords) (given : name ≠ [])
      (letters : ∀ c ∈ name, c.isWord = true) :
      Form (text word ++ text ":" ++ name)
  | paired (first : one ≠ [])
      (plain : ∀ c ∈ one, c ≠ .char ':' ∧ c ≠ closeBrace)
      (second : other ≠ []) (unclosed : ∀ c ∈ other, c ≠ closeBrace) :
      Form (text "is_connected" ++ text ":" ++ one ++ text ":" ++ other)

/-- A placeholder stands somewhere in the text. -/
def Occurs (s : Text) : Prop := ∃ inner, Form inner ∧ braced inner <:+: s

theorem ne_braces_of_isWord {c : CodePoint} (letter : c.isWord = true) :
    c ≠ openBrace ∧ c ≠ closeBrace := by
  constructor <;> rintro rfl <;> exact absurd letter (by decide)

theorem Form.unclosed {inner : Text} (form : Form inner) :
    closeBrace ∉ inner := by
  cases form with
  | named known given letters =>
      have clean : ∀ word ∈ singleWords, closeBrace ∉ text word := by decide
      simp only [List.mem_append, not_or]
      exact ⟨⟨clean _ known, by decide⟩, fun member =>
        (ne_braces_of_isWord (letters _ member)).2 rfl⟩
  | paired first plain second unclosed =>
      simp only [List.mem_append, not_or]
      exact ⟨⟨⟨⟨by decide, by decide⟩, fun member => (plain _ member).2 rfl⟩,
        by decide⟩, fun member => unclosed _ member rfl⟩

theorem Form.head {inner : Text} (form : Form inner) :
    inner.head? ≠ some openBrace := by
  cases form with
  | named known =>
      simp only [singleWords, List.mem_cons, List.not_mem_nil, or_false]
        at known
      rcases known with rfl | rfl | rfl | rfl <;> simp [text, openBrace]
  | paired => simp [text, openBrace]

/-! Values. -/

/-- A code point that is a character and no brace. -/
def Harmless (c : CodePoint) : Prop :=
  c.isLone = false ∧ c ≠ openBrace ∧ c ≠ closeBrace

instance (c : CodePoint) : Decidable (Harmless c) :=
  inferInstanceAs (Decidable (_ ∧ _ ∧ _))

structure Plain (s : Text) : Prop where
  nonempty : s ≠ []
  harmless : ∀ c ∈ s, Harmless c

theorem Plain.append {s t : Text} (plain : Plain s)
    (harmless : ∀ c ∈ t, Harmless c) : Plain (s ++ t) where
  nonempty := by simp [plain.nonempty]
  harmless := by
    intro c member
    rcases List.mem_append.1 member with front | back
    · exact plain.harmless c front
    · exact harmless c back

theorem harmless_of_isDigit {c : Char} (digit : c.isDigit = true) :
    Harmless (.char c) := by
  refine ⟨rfl, ?_, ?_⟩ <;> intro equality <;>
    obtain rfl := CodePoint.char.inj equality <;>
    exact absurd digit (by decide)

theorem plain_ofNat (n : Nat) : Plain (Text.ofNat n) where
  nonempty := by simp [Text.ofNat]
  harmless := by
    intro c member
    obtain ⟨digit, inDigits, rfl⟩ := List.mem_map.1 member
    exact harmless_of_isDigit
      (Nat.isDigit_of_mem_toDigits (by decide) (by decide) inDigits)

theorem plain_ofInt (n : Int) : Plain (Text.ofInt n) := by
  cases n with
  | ofNat n => exact plain_ofNat n
  | negSucc n =>
      have sign : Plain (text "-") := ⟨by decide, by decide⟩
      exact sign.append (plain_ofNat (n + 1)).harmless

theorem plain_writeInteger? {n : Int} {s : Text} (written : writeInteger? n = some s) :
    Plain s := by
  rw [writeInteger?, Option.ite_none_left_eq_some] at written
  obtain ⟨_, same⟩ := written
  cases same
  exact plain_ofInt n

theorem plain_fixedText (places : Nat) (x : Float) :
    Plain (fixedText (places + 1) x) := by
  rw [fixedText]
  split
  · exact ⟨by decide, by decide⟩
  · next negative _ => cases negative <;> exact ⟨by decide, by decide⟩
  · next d _ =>
      have digits : ∀ (width scaled : Nat), ∀ c ∈
          List.replicate width (CodePoint.char '0') ++ Text.ofNat scaled,
          Harmless c := by
        intro width scaled c member
        rcases List.mem_append.1 member with zero | digit
        · obtain rfl := List.eq_of_mem_replicate zero
          decide
        · exact (plain_ofNat scaled).harmless c digit
      have sign : ∀ c ∈ text (if d.negative then "-" else ""), Harmless c := by
        split <;> decide
      have point : ∀ c ∈ text ".", Harmless c := by decide
      simp only [Nat.add_one_ne_zero, if_false]
      constructor
      · have : text "." ≠ [] := by decide
        simp [this]
      · intro c member
        simp only [List.mem_append] at member
        rcases member with (negative | whole) | dot | fraction
        · exact sign c negative
        · exact digits _ _ c (List.mem_of_mem_take whole)
        · exact point c dot
        · exact digits _ _ c (List.mem_of_mem_drop fraction)

/-! Recognisers. -/

/-- A recogniser finds the placeholders whose inner text a relation ties to a
value, or to none, and nothing else. -/
structure Slot (stands : Text → Option Text → Prop) (at? : Text.Recogniser) :
    Prop where
  found : ∀ {s out n}, at? s = some (out, n) →
    ∃ inner rest, s = braced inner ++ rest ∧ stands inner out ∧
      n = (braced inner).length
  finds : ∀ {inner out}, stands inner out → ∀ rest,
    at? (braced inner ++ rest) = some (out, (braced inner).length)
  form : ∀ {inner out}, stands inner out → Form inner
  plain : ∀ {inner out}, stands inner (some out) → Plain out

theorem span_append_of_stop {p : CodePoint → Bool} {name rest : Text}
    {c : CodePoint} (all : ∀ d ∈ name, p d = true) (stop : p c = false) :
    (name ++ c :: rest).span p = (name, c :: rest) := by
  rw [List.span_eq_takeWhile_dropWhile, List.takeWhile_append_of_pos all,
    List.dropWhile_append_of_pos all]
  simp [stop]

theorem eq_append_span {p : CodePoint → Bool} {s name rest : Text}
    (split : s.span p = (name, rest)) :
    s = name ++ rest ∧ ∀ c ∈ name, p c = true := by
  rw [List.span_eq_takeWhile_dropWhile] at split
  cases split
  exact ⟨List.takeWhile_append_dropWhile.symm, fun c member =>
    List.all_eq_true.1 List.all_takeWhile c member⟩

inductive Named (word : String) (value : Text → Option Text) :
    Text → Option Text → Prop
  | intro (name : Text) (given : name ≠ [])
      (letters : ∀ c ∈ name, c.isWord = true) :
      Named word value (text word ++ text ":" ++ name) (value name)

inductive Paired (word : String) (value : Text → Text → Option Text) :
    Text → Option Text → Prop
  | intro (one other : Text) (first : one ≠ [])
      (plain : ∀ c ∈ one, c ≠ .char ':' ∧ c ≠ closeBrace)
      (second : other ≠ []) (unclosed : ∀ c ∈ other, c ≠ closeBrace) :
      Paired word value (text word ++ text ":" ++ one ++ text ":" ++ other)
        (value one other)

theorem startsWith_closing (rest : Text) :
    Text.startsWith (closeBrace :: closeBrace :: rest) closing = true :=
  Text.startsWith_iff.2 ⟨rest, rfl⟩

theorem named?_braced {word : String} {value : Text → Option Text}
    {inner : Text} {out : Option Text} (stands : Named word value inner out)
    (rest : Text) :
    named? word value (braced inner ++ rest) =
      some (out, (braced inner).length) := by
  obtain ⟨name, given, letters⟩ := stands
  have shape : braced (text word ++ text ":" ++ name) ++ rest =
      lead word ++ (name ++ closeBrace :: closeBrace :: rest) := by
    simp only [braced, lead, List.append_assoc]
    rfl
  have parts : (name ++ closeBrace :: closeBrace :: rest).span
      CodePoint.isWord = (name, closeBrace :: closeBrace :: rest) :=
    span_append_of_stop letters (by decide)
  have length : (braced (text word ++ text ":" ++ name)).length =
      (lead word).length + name.length + closing.length := by
    simp only [braced, lead, List.length_append]
    omega
  have notEmpty : name.isEmpty = false := by simpa using given
  simp only [named?, shape, length, Text.dropLead?_append, parts,
    notEmpty, startsWith_closing, Option.bind_eq_bind, Option.bind_some,
    Bool.not_true, Bool.or_false, Bool.false_eq_true, if_false,
    Option.pure_def]

theorem stands_of_named? {word : String} {value : Text → Option Text} {s : Text}
    {out : Option Text} {n : Nat} (found : named? word value s = some (out, n)) :
    ∃ inner rest, s = braced inner ++ rest ∧ Named word value inner out ∧
      n = (braced inner).length := by
  simp only [named?, Option.bind_eq_bind, Option.bind_eq_some_iff] at found
  obtain ⟨named, leading, found⟩ := found
  rcases parts : named.span CodePoint.isWord with ⟨name, ending⟩
  obtain ⟨rfl, letters⟩ := eq_append_span parts
  simp only [parts, Option.ite_none_left_eq_some, Bool.or_eq_true,
    Bool.not_eq_true', not_or, List.isEmpty_iff, Bool.not_eq_false,
    Option.pure_def, Option.some.injEq, Prod.mk.injEq] at found
  obtain ⟨⟨given, closed⟩, rfl, rfl⟩ := found
  obtain ⟨rest, rfl⟩ := Text.startsWith_iff.1 closed
  refine ⟨_, rest, ?_, .intro name given letters, ?_⟩
  · rw [Text.dropLead?_eq_some_iff.1 leading]
    simp only [braced, lead, List.append_assoc]
  · simp only [braced, lead, List.length_append]
    omega

theorem paired?_braced {word : String} {value : Text → Text → Option Text}
    {inner : Text} {out : Option Text} (stands : Paired word value inner out)
    (rest : Text) :
    paired? word value (braced inner ++ rest) =
      some (out, (braced inner).length) := by
  obtain ⟨one, other, first, plain, second, unclosed⟩ := stands
  have shape :
      braced (text word ++ text ":" ++ one ++ text ":" ++ other) ++ rest =
        lead word ++ (one ++ .char ':' ::
          (other ++ closeBrace :: closeBrace :: rest)) := by
    simp only [braced, lead, List.append_assoc]
    rfl
  have ones : (one ++ .char ':' ::
      (other ++ closeBrace :: closeBrace :: rest)).span
      (fun c => c != .char ':' && c != .char '\x7d') =
        (one, .char ':' :: (other ++ closeBrace :: closeBrace :: rest)) :=
    span_append_of_stop
      (fun c member => by simpa [closeBrace] using plain c member) (by decide)
  have divided : Text.dropLead? (text ":") (.char ':' ::
      (other ++ closeBrace :: closeBrace :: rest)) =
        some (other ++ closeBrace :: closeBrace :: rest) :=
    Text.dropLead?_append (text ":") _
  have others : (other ++ closeBrace :: closeBrace :: rest).span
      (fun c => c != .char '\x7d') =
        (other, closeBrace :: closeBrace :: rest) :=
    span_append_of_stop
      (fun c member => by simpa [closeBrace] using unclosed c member)
      (by decide)
  have length :
      (braced (text word ++ text ":" ++ one ++ text ":" ++ other)).length =
        (lead word).length + one.length + 1 + other.length +
          closing.length := by
    have : (text ":").length = 1 := rfl
    simp only [braced, lead, List.length_append]
    omega
  have firstGiven : one.isEmpty = false := by simpa using first
  have secondGiven : other.isEmpty = false := by simpa using second
  simp only [paired?, shape, length, Text.dropLead?_append, ones, divided,
    others, firstGiven, secondGiven, startsWith_closing,
    Option.bind_eq_bind, Option.bind_some, Bool.not_true, Bool.or_false,
    Bool.false_eq_true, if_false, Option.pure_def]

theorem stands_of_paired? {word : String} {value : Text → Text → Option Text}
    {s : Text} {out : Option Text} {n : Nat} (found : paired? word value s = some (out, n)) :
    ∃ inner rest, s = braced inner ++ rest ∧ Paired word value inner out ∧
      n = (braced inner).length := by
  simp only [paired?, Option.bind_eq_bind, Option.bind_eq_some_iff] at found
  obtain ⟨named, leading, second, divided, found⟩ := found
  rcases parts : named.span
    (fun c => c != .char ':' && c != .char '\x7d') with ⟨one, ending⟩
  obtain ⟨rfl, plain⟩ := eq_append_span parts
  simp only [parts] at divided
  rcases others : second.span (fun c => c != .char '\x7d') with
    ⟨other, ending⟩
  obtain ⟨rfl, unclosed⟩ := eq_append_span others
  simp only [parts, others, Option.ite_none_left_eq_some, Bool.or_eq_true,
    Bool.not_eq_true', not_or, List.isEmpty_iff, Bool.not_eq_false,
    Option.pure_def, Option.some.injEq, Prod.mk.injEq] at found
  obtain ⟨⟨⟨first, given⟩, closed⟩, rfl, rfl⟩ := found
  obtain ⟨rest, rfl⟩ := Text.startsWith_iff.1 closed
  refine ⟨_, rest, ?_, .intro one other first ?_ given ?_, ?_⟩
  · rw [Text.dropLead?_eq_some_iff.1 leading,
      Text.dropLead?_eq_some_iff.1 divided]
    simp only [braced, lead, List.append_assoc]
  · intro c member
    simpa [closeBrace] using plain c member
  · intro c member
    simpa [closeBrace] using unclosed c member
  · simp only [braced, lead, List.length_append]
    have : (text ":").length = 1 := rfl
    omega

theorem slot_named {word : String} {value : Text → Option Text}
    (known : word ∈ singleWords) (plain : ∀ name s, value name = some s → Plain s) :
    Slot (Named word value) (named? word value) where
  found := stands_of_named?
  finds := named?_braced
  form := by
    rintro _ _ ⟨name, given, letters⟩
    exact .named known given letters
  plain := by
    intro inner out stands
    generalize own : some out = known at stands
    cases stands with
    | intro name => exact plain name out own.symm

theorem slot_paired {value : Text → Text → Option Text}
    (plain : ∀ one other s, value one other = some s → Plain s) :
    Slot (Paired "is_connected" value) (paired? "is_connected" value) where
  found := stands_of_paired?
  finds := paired?_braced
  form := by
    rintro _ _ ⟨one, other, first, named, second, unclosed⟩
    exact .paired first named second unclosed
  plain := by
    intro inner out stands
    generalize own : some out = known at stands
    cases stands with
    | intro one other => exact plain one other out own.symm

theorem plain_volts (v : Option Float) : Plain (volts v) :=
  plain_fixedText 1 _

theorem plain_reading (v : Option Float) : Plain (volts v ++ text "V") :=
  (plain_volts v).append (by decide)

theorem plain_bool (b : Bool) : Plain (text (if b then "true" else "false")) := by
  cases b <;> exact ⟨by decide, by decide⟩

/-! Every kind of placeholder has a word of its own. -/

def wordOf (inner : Text) : Text := inner.takeWhile fun c => c != .char ':'

theorem wordOf_append {word : Text} (free : .char ':' ∉ word) (rest : Text) :
    wordOf (word ++ text ":" ++ rest) = word := by
  have all : ∀ c ∈ word, (c != .char ':') = true :=
    fun c member => bne_iff_ne.2 fun same => free (same ▸ member)
  rw [wordOf, List.append_assoc, List.takeWhile_append_of_pos all]
  exact List.append_nil word

structure Kind where
  word : Text
  at? : Text.Recogniser
  stands : Text → Option Text → Prop
  slot : Slot stands at?
  leads : ∀ {inner out}, stands inner out → wordOf inner = word

namespace Kind

def named (word : String) (value : Text → Option Text) (known : word ∈ singleWords)
    (plain : ∀ name s, value name = some s → Plain s) : Kind where
  word := text word
  at? := named? word value
  stands := Named word value
  slot := slot_named known plain
  leads := by
    rintro _ _ ⟨name, _, _⟩
    have free : ∀ word ∈ singleWords, .char ':' ∉ text word := by decide
    exact wordOf_append (free word known) name

def paired (value : Text → Text → Option Text)
    (plain : ∀ one other s, value one other = some s → Plain s) : Kind where
  word := text "is_connected"
  at? := paired? "is_connected" value
  stands := Paired "is_connected" value
  slot := slot_paired plain
  leads := by
    rintro _ _ ⟨one, other, _, _, _, _⟩
    have free : .char ':' ∉ text "is_connected" := by decide
    rw [List.append_assoc (_ ++ one), List.append_assoc _ one]
    exact wordOf_append free _

def all (board : Board) : List Kind :=
  [named "dac_voltage" (fun name => some (volts (board.dacVoltage? name) ++ text "V"))
      (by decide) fun _ _ same => Option.some.inj same ▸ plain_reading _,
    named "dac_value" (fun name => some (volts (board.dacVoltage? name)))
      (by decide) fun _ _ same => Option.some.inj same ▸ plain_volts _,
    named "adc_voltage" (fun name => some (volts (board.adcVoltage? name) ++ text "V"))
      (by decide) fun _ _ same => Option.some.inj same ▸ plain_reading _,
    named "gpio_value" (fun name => writeInteger? ((board.pinValue? name).getD 0))
      (by decide) fun _ _ => plain_writeInteger?,
    paired (fun x y => some (text (if board.isConnected x y then "true" else "false")))
      fun _ _ _ same => Option.some.inj same ▸ plain_bool _]

theorem map_at?_all (board : Board) : (all board).map Kind.at? = kinds board := rfl

theorem nodup_word_all (board : Board) : ((all board).map word).Nodup := by
  have words : (all board).map word = [text "dac_voltage", text "dac_value",
      text "adc_voltage", text "gpio_value", text "is_connected"] := rfl
  rw [words]
  decide

end Kind

theorem slot_of_mem_map (order : List Kind) :
    ∀ at? ∈ order.map Kind.at?, ∃ stands, Slot stands at? := by
  intro at? member
  obtain ⟨kind, _, rfl⟩ := List.mem_map.1 member
  exact ⟨kind.stands, kind.slot⟩

theorem slot_of_mem_kinds {b : Board} {at? : Text.Recogniser}
    (member : at? ∈ kinds b) : ∃ stands, Slot stands at? :=
  slot_of_mem_map (Kind.all b) at? member

/-! Replacement in one pass, part by part. -/

abbrev joined? : Option Text → Option Text → Option Text := Option.map₂ (· ++ ·)

theorem replaceBy?_cons {at? : Text.Recogniser} {c : CodePoint}
    {s : Text} (missed : at? (c :: s) = none) :
    Text.replaceBy? at? (c :: s) = (Text.replaceBy? at? s).map (c :: ·) := by
  rw [Text.replaceBy?, missed]

variable {stands : Text → Option Text → Prop} {at? : Text.Recogniser}

theorem braced_eq_cons (inner rest : Text) :
    braced inner ++ rest =
      openBrace :: (openBrace :: (inner ++ closing ++ rest)) := by
  simp only [braced, List.append_assoc]
  rfl

theorem Slot.replaceBy?_braced (slot : Slot stands at?) {inner : Text}
    {out : Option Text} (known : stands inner out) (rest : Text) :
    Text.replaceBy? at? (braced inner ++ rest) =
      joined? out (Text.replaceBy? at? rest) := by
  have found : at? (braced inner ++ rest) = some (out, (braced inner).length) :=
    slot.finds known rest
  have dropped : (openBrace :: (inner ++ closing ++ rest)).drop
      ((braced inner).length - 1) = rest := by
    have whole : (braced inner ++ rest).drop (braced inner).length = rest :=
      List.drop_left ..
    rwa [braced_eq_cons, show (braced inner).length =
      (braced inner).length - 1 + 1 by simp [braced, opening, text],
      List.drop_succ_cons] at whole
  rw [braced_eq_cons] at found ⊢
  rw [Text.replaceBy?, found]
  simp only [dropped]
  cases out <;> cases Text.replaceBy? at? rest <;> rfl

/-- What holds of a text follows the parts that a pass finds in it. -/
@[elab_as_elim]
theorem Slot.induction (slot : Slot stands at?) {motive : Text → Prop}
    (nil : motive [])
    (cons : ∀ c s, at? (c :: s) = none → motive s → motive (c :: s))
    (braced : ∀ inner out rest, stands inner out → motive rest →
      motive (braced inner ++ rest)) (s : Text) : motive s := by
  induction length : s.length using Nat.strongRecOn generalizing s with
  | _ n ih =>
      cases s with
      | nil => exact nil
      | cons c s =>
          cases attempt : at? (c :: s) with
          | none =>
              exact cons c s attempt
                (ih s.length (by simp [← length]) s rfl)
          | some result =>
              obtain ⟨out, taken⟩ := result
              obtain ⟨inner, rest, equality, known, _⟩ := slot.found attempt
              rw [equality] at length ⊢
              refine braced inner out rest known
                (ih rest.length ?_ rest rfl)
              rw [braced_eq_cons] at length
              simp only [List.length_cons, List.length_append] at length
              omega

end Placeholder

end Breadboard
