import Breadboard.Config.Basic
import Breadboard.Proofs.Number.Span

/-! Durations as they are written, and that just these are read: nothing, a
numeral, or numbers with units behind signs. -/

namespace Breadboard

namespace Duration

/-- A decimal number, and the float next to it: digits, or a point with digits
after it and perhaps before it. -/
inductive Number : Text → Float → Prop
  | whole {s : Text} (digits : Digits s) (given : s ≠ []) :
      Number s (Decimal.toFloat ⟨false, ofDigits (digitsOf s), 0⟩)
  | point {s t : Text} (whole : Digits s) (places : Digits t) (given : t ≠ []) :
      Number (s ++ .char '.' :: t)
        (Decimal.toFloat ⟨false, ofDigits (digitsOf s ++ digitsOf t), -(t.length : Int)⟩)

/-- Numbers with units, and what each is worth. -/
inductive Parts : Text → List (Float × Float) → Prop
  | nil : Parts [] []
  | cons {s t : Text} {n worth : Float} {name : String} {parts : List (Float × Float)}
      (number : Number s n) (unit : (name, worth) ∈ units) (rest : Parts t parts) :
      Parts (s ++ (text name ++ t)) ((n, worth) :: parts)

def total (parts : List (Float × Float)) : Float :=
  parts.foldl (fun total (n, worth) => total + n * worth) 0.0

def Signs (s : Text) : Prop := ∀ c ∈ s, c = .char '+' ∨ c = .char '-'

def signOf (signs : Text) : Float :=
  if signs.head? = some (.char '-') then -1.0 else 1.0

/-- A duration as it is written, how many signs stand before its parts, and what
it is worth. -/
inductive Written : Text → Nat → Float → Prop
  | nothing : Written [] 0 0.0
  | numeral {s : Text} {x : Float} (reads : readFloat? s = some x) : Written s 0 x
  | parts {signs body : Text} {parts : List (Float × Float)} (signed : Signs signs)
      (read : Parts body parts) (given : parts ≠ []) :
      Written (signs ++ body) signs.length (signOf signs * total parts)

variable {s t rest : Text} {n worth x : Float} {name : String}
  {parts : List (Float × Float)}

/-! One number and one unit. -/

theorem digitsOf_ne_nil (given : s ≠ []) : digitsOf s ≠ [] :=
  fun nothing => given (List.map_eq_nil_iff.1 nothing)

def Begins (c : CodePoint) : Prop :=
  (0x30 ≤ c.toNat ∧ c.toNat ≤ 0x39) ∨ c = .char '.'

instance (c : CodePoint) : Decidable (Begins c) :=
  inferInstanceAs (Decidable ((0x30 ≤ c.toNat ∧ c.toNat ≤ 0x39) ∨ c = .char '.'))

theorem Number.begins (number : Number s n) : ∀ c ∈ (s ++ rest).head?, Begins c := by
  have first : ∀ {s rest : Text}, Digits s → s ≠ [] →
      ∀ c ∈ (s ++ rest).head?, Begins c := by
    intro s rest digits given
    cases s with
    | nil => exact absurd rfl given
    | cons d s =>
        rintro c ⟨⟩
        exact .inl (digits _ List.mem_cons_self)
  cases number with
  | whole digits given => exact first digits given
  | @point whole _ digits =>
      cases whole with
      | nil =>
          rintro c ⟨⟩
          exact .inr rfl
      | cons d whole =>
          rw [List.append_assoc]
          exact first digits nofun

theorem number?_append (number : Number s n) (stops : ∀ c ∈ rest.head?, ¬ Begins c) :
    number? (s ++ rest) = some (n, rest) := by
  have stop : ∀ c ∈ rest.head?, c.asciiDigit? = none := fun c lead =>
    CodePoint.asciiDigit?_eq_none_iff.2 (not_or.1 (stops c lead)).1
  cases number with
  | whole digits given =>
      rw [number?, spanAscii_append digits stop]
      dsimp only
      split
      · next r => exact absurd (.inr rfl) (stops _ rfl)
      · rw [if_neg (by simpa using digitsOf_ne_nil given)]
  | @point whole places digits decimals given =>
      have pointed : ∀ c ∈ (CodePoint.char '.' :: (places ++ rest)).head?,
          c.asciiDigit? = none := by
        rintro c ⟨⟩
        rfl
      rw [number?, List.append_assoc, List.cons_append, spanAscii_append digits pointed]
      dsimp only
      split
      · next same =>
          cases same
          rw [spanAscii_append decimals stop]
          split
          · next nothing => exact absurd (Prod.mk.inj nothing).1 (digitsOf_ne_nil given)
          · next read =>
              cases read
              rw [digitsOf, digitsOf, List.length_map]
      · next unpointed => exact absurd rfl (unpointed _)

theorem of_number? (read : number? s = some (n, rest)) :
    ∃ front, s = front ++ rest ∧ Number front n := by
  rw [number?] at read
  cases spanned : spanAscii s with
  | mk whole after =>
  obtain ⟨front, rfl, digits, rfl⟩ := of_spanAscii spanned
  rw [spanned] at read
  dsimp only at read
  split at read
  · next r =>
      cases spanned' : spanAscii r with
      | mk places after =>
      obtain ⟨back, rfl, decimals, rfl⟩ := of_spanAscii spanned'
      rw [spanned'] at read
      split at read
      · cases read
      · next given same =>
          cases same
          cases read
          refine ⟨front ++ .char '.' :: back, by simp, ?_⟩
          have length : (digitsOf back).length = back.length := List.length_map _
          rw [length]
          refine .point digits decimals ?_
          rintro rfl
          cases given rfl
  · split at read
    · cases read
    · next given =>
        cases read
        refine ⟨front, rfl, .whole digits ?_⟩
        rintro rfl
        exact given rfl

theorem stops_of_unit (unit : (name, worth) ∈ units) :
    ∀ c ∈ (text name ++ rest).head?, ¬ Begins c := by
  have all : ∀ u ∈ units, (text u.1).head?.any (fun c => !decide (Begins c)) = true := by decide
  have own := all _ unit
  dsimp only at own
  cases spelled : text name with
  | nil =>
      rw [spelled] at own
      cases own
  | cons d s =>
      rw [spelled] at own
      rintro c ⟨⟩
      simpa using own

theorem unit?_append (unit : (name, worth) ∈ units)
    (starts : ∀ c ∈ rest.head?, Begins c) :
    unit? (text name ++ rest) = some (worth, rest) := by
  -- `m` is the only unit that another one goes on from, with an `s`
  have longer : ∀ lead, Text.dropLead? (.char 's' :: lead) rest = none := by
    intro lead
    cases rest with
    | nil => rfl
    | cons c rest =>
        refine if_neg ?_
        rintro rfl
        exact absurd (starts _ rfl) (by decide)
  simp only [units, List.mem_cons, Prod.mk.injEq, List.not_mem_nil, or_false] at unit
  rcases unit with ⟨rfl, rfl⟩ | ⟨rfl, rfl⟩ | ⟨rfl, rfl⟩ | ⟨rfl, rfl⟩ | ⟨rfl, rfl⟩ |
    ⟨rfl, rfl⟩ | ⟨rfl, rfl⟩ <;>
    simp [unit?, units, text, Text.dropLead?, longer]

theorem of_unit? (read : unit? s = some (worth, rest)) :
    ∃ name, (name, worth) ∈ units ∧ s = text name ++ rest := by
  obtain ⟨⟨name, own⟩, known, dropped⟩ := List.exists_of_findSome?_eq_some read
  obtain ⟨_, rest, same⟩ := Option.map_eq_some_iff.1 dropped
  cases same
  exact ⟨name, known, Text.dropLead?_eq_some_iff.1 rest⟩

/-! Numbers with units. -/

theorem Parts.begins (read : Parts s parts) : ∀ c ∈ s.head?, Begins c := by
  cases read with
  | nil => nofun
  | cons number => exact number.begins

theorem Number.ne_nil (number : Number s n) : s ≠ [] := by
  cases number with
  | whole _ given => exact given
  | point => exact List.append_ne_nil_of_right_ne_nil _ nofun

theorem parts?_nil (most : Nat) : parts? most [] = some [] := by
  cases most <;> rfl

theorem parts?_succ (given : s ≠ []) (most : Nat) : parts? (most + 1) s = (do
    let (n, s) ← number? s
    let (worth, s) ← unit? s
    return (n, worth) :: (← parts? most s)) := by
  cases s with
  | nil => exact absurd rfl given
  | cons => rfl

theorem parts?_of (read : Parts s parts) {most : Nat} (enough : s.length ≤ most) :
    parts? most s = some parts := by
  induction read generalizing most with
  | nil => exact parts?_nil most
  | @cons s t n worth name parts number unit rest ih =>
      have some_ := List.length_pos_iff.2 number.ne_nil
      simp only [List.length_append] at enough
      obtain ⟨most, rfl⟩ : ∃ fewer, most = fewer + 1 := ⟨most - 1, by omega⟩
      rw [parts?_succ (List.append_ne_nil_of_left_ne_nil number.ne_nil _),
        number?_append number (stops_of_unit unit), Option.bind_eq_bind, Option.bind_some]
      dsimp only
      rw [unit?_append unit rest.begins, Option.bind_eq_bind, Option.bind_some]
      dsimp only
      rw [ih (by omega)]
      rfl

theorem of_parts? {most : Nat} (read : parts? most s = some parts) : Parts s parts := by
  induction most generalizing s parts with
  | zero =>
      cases s with
      | nil =>
          cases read
          exact .nil
      | cons => cases read
  | succ most ih =>
      rcases eq_or_ne s [] with rfl | given
      · cases read
        exact .nil
      · rw [parts?_succ given] at read
        obtain ⟨⟨n, after⟩, number, read⟩ := Option.bind_eq_some_iff.1 read
        obtain ⟨⟨worth, others⟩, unit, read⟩ := Option.bind_eq_some_iff.1 read
        obtain ⟨parts, rest, result⟩ := Option.bind_eq_some_iff.1 read
        cases result
        obtain ⟨front, rfl, own⟩ := of_number? number
        obtain ⟨name, known, rfl⟩ := of_unit? unit
        exact .cons own known (ih rest)

/-! Signs before them. -/

def isSign (c : CodePoint) : Bool := c = .char '+' || c = .char '-'

theorem isSign_iff {c : CodePoint} : isSign c = true ↔ c = .char '+' ∨ c = .char '-' := by
  simp [isSign]

theorem isSign_of_begins {c : CodePoint} (begins : Begins c) : isSign c = false := by
  rw [Bool.eq_false_iff, ne_eq, isSign_iff]
  rintro (rfl | rfl) <;> exact absurd begins (by decide)

theorem dropSigns {signs body : Text} (signed : Signs signs)
    (begins : ∀ c ∈ body.head?, Begins c) : (signs ++ body).dropWhile isSign = body := by
  rw [List.dropWhile_append_of_pos fun c member => isSign_iff.2 (signed c member)]
  cases body with
  | nil => rfl
  | cons c body => exact List.dropWhile_cons_of_neg (by simp [isSign_of_begins (begins c rfl)])

theorem signOf_append {signs body : Text} (begins : ∀ c ∈ body.head?, Begins c) :
    signOf (signs ++ body) = signOf signs := by
  cases signs with
  | cons => rfl
  | nil =>
      refine if_neg fun lead => ?_
      exact absurd (begins _ lead) (by decide)

theorem signs_takeWhile (s : Text) : Signs (s.takeWhile isSign) :=
  fun _ taken => isSign_iff.1 (List.mem_takeWhile_imp taken)

theorem compound?_eq (s : Text) : compound? s =
    (parts? (s.dropWhile isSign).length (s.dropWhile isSign)).bind fun parts =>
      if parts.isEmpty then none else some (signOf s * total parts) := by
  have signs : (fun c => decide (c = .char '+') || decide (c = .char '-')) = isSign := rfl
  rw [compound?, signs]
  cases parts? (s.dropWhile isSign).length (s.dropWhile isSign) with
  | none => rfl
  | some parts => cases parts <;> rfl

theorem compound?_append {signs body : Text} (signed : Signs signs)
    (read : Parts body parts) (given : parts ≠ []) :
    compound? (signs ++ body) = some (signOf signs * total parts) := by
  rw [compound?_eq, dropSigns signed read.begins, parts?_of read (Nat.le_refl _),
    Option.bind_some, if_neg (by simpa using given), signOf_append read.begins]

theorem of_compound? (read : compound? s = some x) :
    ∃ signs body parts, s = signs ++ body ∧ Signs signs ∧ Parts body parts ∧ parts ≠ [] ∧
      x = signOf signs * total parts := by
  rw [compound?_eq] at read
  obtain ⟨parts, found, result⟩ := Option.bind_eq_some_iff.1 read
  have body := of_parts? found
  have split_ : s.takeWhile isSign ++ s.dropWhile isSign = s := List.takeWhile_append_dropWhile
  refine ⟨s.takeWhile isSign, s.dropWhile isSign, parts, split_.symm, signs_takeWhile s, body, ?_⟩
  have whole : signOf (s.takeWhile isSign ++ s.dropWhile isSign) =
      signOf (s.takeWhile isSign) := signOf_append body.begins
  rw [split_] at whole
  rw [← whole]
  split at result
  · cases result
  · next given =>
      cases result
      exact ⟨by simpa using given, rfl⟩

/-! A duration is one in one way: no numeral has a unit in it. -/

theorem foreign_of_unit (unit : (name, worth) ∈ units) : ∃ c ∈ text name, Foreign c :=
  have all : ∀ u ∈ units, ∃ c ∈ text u.1, Foreign c := by decide
  all _ unit

theorem Parts.readFloat?_eq_none (read : Parts s parts) (given : parts ≠ []) (signs : Text) :
    readFloat? (signs ++ s) = none := by
  cases read with
  | nil => exact absurd rfl given
  | cons number unit rest =>
      obtain ⟨c, member, foreign⟩ := foreign_of_unit unit
      exact foreign.readFloat?_eq_none (by simp [member])

theorem Written.of_nil {signs : Nat} (written : Written s signs x) (nothing : s = []) :
    x = 0.0 := by
  cases written with
  | nothing => rfl
  | numeral reads =>
      subst nothing
      cases reads
  | parts _ read given =>
      cases read with
      | nil => exact absurd rfl given
      | cons number =>
          exact absurd (List.append_eq_nil_iff.1 (List.append_eq_nil_iff.1 nothing).2).1
            number.ne_nil

theorem ofText?_eq_some_iff (s : Text) :
    ofText? s = some x ↔ ∃ signs, Written s.trim signs x := by
  rw [ofText?]
  generalize s.trim = s
  rcases eq_or_ne s [] with nothing | given
  · constructor
    · intro read
      subst nothing
      cases read
      exact ⟨0, .nothing⟩
    · rintro ⟨signs, written⟩
      rw [written.of_nil nothing, nothing]
      rfl
  · rw [if_neg (by simpa using given)]
    constructor
    · intro read
      cases numeral : readFloat? s with
      | some y =>
          rw [numeral] at read
          cases read
          exact ⟨0, .numeral numeral⟩
      | none =>
          rw [numeral] at read
          obtain ⟨signs, body, parts, rfl, signed, body, some_, rfl⟩ := of_compound? read
          exact ⟨signs.length, .parts signed body some_⟩
    · rintro ⟨signs, written⟩
      cases written with
      | nothing => exact absurd rfl given
      | numeral reads =>
          rw [reads]
          rfl
      | parts signed read some_ =>
          rw [read.readFloat?_eq_none some_]
          exact compound?_append signed read some_

def SignedTwice (s : Text) : Prop := ∃ c d rest, s = c :: d :: rest ∧ Signs [c, d]

theorem Written.signs_le {signs : Nat} (written : Written s signs x)
    (once : ¬ SignedTwice s) : signs ≤ 1 := by
  cases written with
  | nothing => exact Nat.zero_le 1
  | numeral => exact Nat.zero_le 1
  | @parts signs body _ signed =>
      match signs, signed, once with
      | [], _, _ => exact Nat.zero_le 1
      | [_], _, _ => exact Nat.le_refl 1
      | c :: d :: more, signed, once =>
          have lead : [c, d] ⊆ c :: d :: more := List.subset_append_left [c, d] more
          exact absurd ⟨c, d, more ++ body, rfl, fun e member => signed e (lead member)⟩ once

/-- With a unit in a duration, all signs before it are counted. -/
theorem Written.signs_eq {signs : Nat} {c : CodePoint} (written : Written s signs x)
    (foreign : Foreign c) (member : c ∈ s) : signs = (s.takeWhile isSign).length := by
  cases written with
  | nothing => cases member
  | numeral reads =>
      rw [foreign.readFloat?_eq_none member] at reads
      cases reads
  | @parts signs body _ signed read =>
      have split_ := congrArg List.length
        (List.takeWhile_append_dropWhile (p := isSign) (l := signs ++ body))
      rw [dropSigns signed read.begins, List.length_append, List.length_append] at split_
      omega

theorem duration_text (s : Text) : Config.duration (.text s) =
    match ofText? s with
    | some x => .ok x
    | none => .error (.duration (.text s)) := by
  have read : read (.text s) =
      match ofText? s with
      | some x => .ok x
      | none => .error .invalid := rfl
  rw [Config.duration, read]
  cases ofText? s <;> rfl

theorem duration_text_eq_ok_iff :
    Config.duration (.text s) = .ok x ↔ ∃ signs, Written s.trim signs x := by
  rw [duration_text, ← ofText?_eq_some_iff]
  cases ofText? s <;> simp

/-- Just what is written as a duration is read, and as what it is worth; all else
is a fault that tells the text. Where a text does not begin with two signs, there
is one at most before its parts. -/
theorem read_iff_written (s : Text) :
    (∀ x, Config.duration (.text s) = .ok x ↔ ∃ signs, Written s.trim signs x) ∧
    (Config.duration (.text s) = .error (.duration (.text s)) ↔
      ¬ ∃ signs x, Written s.trim signs x) ∧
    (¬ SignedTwice s.trim → ∀ x,
      Config.duration (.text s) = .ok x ↔ ∃ signs ≤ 1, Written s.trim signs x) := by
  refine ⟨fun _ => duration_text_eq_ok_iff, ?_, fun once x => ?_⟩
  · rw [exists_comm]
    simp only [← duration_text_eq_ok_iff]
    rw [duration_text]
    cases ofText? s <;> simp
  · rw [duration_text_eq_ok_iff]
    constructor
    · rintro ⟨signs, written⟩
      exact ⟨signs, written.signs_le once, written⟩
    · rintro ⟨signs, -, written⟩
      exact ⟨signs, written⟩

/-- A duration of two parts behind one sign. -/
theorem signed_read : ¬ SignedTwice (text "-1m30s").trim ∧ ∀ x,
    Config.duration (.text (text "-1m30s")) = .ok x ↔
      ∃ signs ≤ 1, Written (text "-1m30s").trim signs x := by
  have once : ¬ SignedTwice (text "-1m30s").trim := by
    rintro ⟨c, d, rest, same, signed⟩
    cases same
    exact absurd (signed (.char '1') (by decide)) (by decide)
  exact ⟨once, (read_iff_written (text "-1m30s")).2.2 once⟩

/-- Behind two signs a duration is read as behind one. -/
theorem signed_twice_read : (∃ x, Config.duration (.text (text "--1s")) = .ok x) ∧
    ¬ ∃ signs ≤ 1, ∃ x, Written (text "--1s").trim signs x := by
  constructor
  · have second : ("s", 1.0) ∈ units := by simp [units]
    have parts : Parts (text "1" ++ (text "s" ++ [])) _ :=
      .cons (.whole (by decide) nofun) second .nil
    have signs : Signs (text "--") := by
      unfold Signs
      decide
    have written : Written (text "--1s").trim 2 _ := Written.parts signs parts nofun
    exact ⟨_, duration_text_eq_ok_iff.2 ⟨2, written⟩⟩
  · rintro ⟨signs, once, x, written⟩
    have counted := written.signs_eq (c := .char 's') (by decide) (by decide)
    have twice : ((text "--1s").trim.takeWhile isSign).length = 2 := by decide
    omega

end Duration

end Breadboard
