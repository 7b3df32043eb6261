import Breadboard.Board.Command
import Breadboard.Proofs.Text.Split
import Breadboard.Proofs.Text.Trim
import Mathlib.Data.List.Basic

/-! Commands as they are written in a request, and where a search for one kind of command finds
them. A word with its parenthesis begins nowhere but in a command of its own kind; the one word
that ends another, `connect` in `disconnect`, is told apart by the letter in front of it. -/

namespace Breadboard

theorem CodePoint.isBlank_of_isWord {c : CodePoint} (letter : c.isWord = true) :
    c.isBlank = false := by
  rw [Bool.eq_false_iff]
  intro blank
  simp only [isBlank, Bool.or_eq_true, Bool.and_eq_true, decide_eq_true_eq, beq_iff_eq] at blank
  simp only [isWord, Bool.or_eq_true, decide_eq_true_eq] at letter
  rcases letter with rfl | letter
  · have number : (CodePoint.char '_').toNat = 0x5F := rfl
    omega
  · rw [isAlphanumeric] at letter
    split at letter
    · simp only [Bool.or_eq_true, Bool.and_eq_true, decide_eq_true_eq] at letter
      omega
    · have gaps : letterRanges.all (fun range =>
          (0xA0).blt range.1 && range.2.blt 0x1680 || (0x1680).blt range.1 && range.2.blt 0x2000 ||
            (0x205F).blt range.1 && range.2.blt 0x3000 || (0x3000).blt range.1) = true := by
        decide +kernel
      obtain ⟨range, row, low, high⟩ := Ranges.contains_iff.1 letter
      have apart := List.all_eq_true.1 gaps range row
      simp only [Bool.or_eq_true, Bool.and_eq_true, Nat.blt_eq] at apart
      omega

namespace Text

inductive Padded (inner : Text) : Text → Prop
  | intro (front back : Text) (before : Void front) (after : Void back) :
      Padded inner (front ++ (inner ++ back))

theorem Padded.trim {inner s : Text} (padded : Padded inner s) (trimmed : Trimmed inner) :
    s.trim = inner := by
  obtain ⟨front, back, before, after⟩ := padded
  rw [trim_append_of_void_left before, trim_append_of_void_right _ after, trimmed.trim]

theorem Padded.not_mem {inner s : Text} (padded : Padded inner s) {c : CodePoint}
    (visible : c.isBlank = false) (free : c ∉ inner) : c ∉ s := by
  obtain ⟨front, back, before, after⟩ := padded
  simp only [List.mem_append, not_or]
  exact ⟨fun member => by simp [before c member] at visible, free,
    fun member => by simp [after c member] at visible⟩

structure Unbracketed (s : Text) : Prop where
  opening : .char '(' ∉ s
  closing : .char ')' ∉ s

instance (s : Text) : Decidable (Unbracketed s) :=
  decidable_of_iff (CodePoint.char '(' ∉ s ∧ CodePoint.char ')' ∉ s)
    ⟨fun free => ⟨free.1, free.2⟩, fun free => ⟨free.opening, free.closing⟩⟩

/-- Whether a word goes on behind a text, if one goes on in front of it or not. -/
def goesOn (inWord : Bool) (s : Text) : Bool := s.foldl (fun _ c => c.isWord) inWord

theorem goesOn_append (inWord : Bool) (s t : Text) :
    goesOn inWord (s ++ t) = goesOn (goesOn inWord s) t := List.foldl_append

theorem goesOn_of_letters {s : Text} (given : s ≠ []) (letters : ∀ c ∈ s, c.isWord = true)
    (inWord : Bool) : goesOn inWord s = true := by
  obtain rfl | ⟨front, c, rfl⟩ := List.eq_nil_or_concat' s
  · exact absurd rfl given
  · rw [goesOn_append]
    exact letters c (List.mem_append_right _ List.mem_cons_self)

theorem goesOn_eq_false {s : Text} (ended : ∀ c ∈ s.getLast?, c.isWord = false) :
    goesOn false s = false := by
  obtain rfl | ⟨front, c, rfl⟩ := List.eq_nil_or_concat' s
  · rfl
  · rw [goesOn_append]
    exact ended c (by simp)

end Text

open Text

inductive Command where
  | setDac (channel value : Text)
  | setPin (pin value : Text)
  | connect (x y : Text)
  | disconnect (x y : Text)
  | clear

namespace Command

inductive Kind where
  | dac
  | pin
  | connect
  | disconnect
  | clear
  deriving DecidableEq

def kind : Command → Kind
  | setDac _ _ => .dac
  | setPin _ _ => .pin
  | connect _ _ => .connect
  | disconnect _ _ => .disconnect
  | clear => .clear

namespace Kind

def all : List Kind := [dac, pin, connect, disconnect, clear]

theorem mem_all (k : Kind) : k ∈ all := by cases k <;> decide

def stem : Kind → Text
  | dac => text "set_dac"
  | pin => text "gpio_set"
  | connect => text "connect"
  | disconnect => text "disconnect"
  | clear => text "clear"

def word (k : Kind) : Text := k.stem ++ [.char '(']

def whole : Kind → Bool
  | dac | pin => false
  | connect | disconnect | clear => true

def arguments? : Kind → Text → Option Command
  | dac, s => (setting? s).map fun (channel, value) => .setDac channel value
  | pin, s => (setting? s).map fun (number, value) => .setPin number value
  | connect, s => (pair? s).map fun (x, y) => .connect x y
  | disconnect, s => (pair? s).map fun (x, y) => .disconnect x y
  | clear, s => (nothing? s).map fun _ => .clear

def find? (k : Kind) (request : Text) : Option Command :=
  if k.whole then firstWhole? k.word k.arguments? false request
  else first? k.word k.arguments? request

/-- A command of the kind can begin somewhere in a text. -/
def Starts (k : Kind) (s : Text) : Prop :=
  ∃ before after, s = before ++ (k.word ++ after) ∧
    (k.whole = true → goesOn false before = false)

theorem stem_letters (k : Kind) : ∀ c ∈ k.stem, c.isWord = true := by cases k <;> decide

theorem not_mem_stem (k : Kind) : .char '(' ∉ k.stem := by cases k <;> decide

/-- Of two kinds only `connect` ends the other's word, and then inside that word. -/
theorem whole_of_stem {k other : Kind} (apart : k ≠ other) {front : Text}
    (ends : other.stem = front ++ k.stem) : k.whole = true ∧ goesOn false front = true := by
  have only : ∀ k ∈ all, ∀ other ∈ all, k ≠ other → k.stem <:+ other.stem →
      k.whole = true ∧
        goesOn false (other.stem.take (other.stem.length - k.stem.length)) = true := by
    decide
  have result := only k (mem_all k) other (mem_all other) apart ⟨front, ends.symm⟩
  rwa [ends, List.length_append, Nat.add_sub_cancel, List.take_left] at result

theorem not_starts_of_unopened (k : Kind) {s : Text} (unopened : .char '(' ∉ s) :
    ¬ k.Starts s := by
  rintro ⟨before, after, rfl, _⟩
  simp [word] at unopened

end Kind

/-! Searches. -/

section Search

variable {α : Type} {word front s rest : Text} {arguments? : Text → Option α} {a : α}

theorem first?_here (given : word ≠ []) (found : arguments? s = some a) :
    first? word arguments? (word ++ s) = some a := by
  obtain ⟨c, word, rfl⟩ := List.exists_cons_of_ne_nil given
  have led : Text.dropLead? (c :: word) (c :: (word ++ s)) = some s := dropLead?_append (c :: word) s
  rw [List.cons_append, first?, led, Option.bind_some, found]
  rfl

theorem firstWhole?_here (given : word ≠ []) (found : arguments? s = some a) :
    firstWhole? word arguments? false (word ++ s) = some a := by
  obtain ⟨c, word, rfl⟩ := List.exists_cons_of_ne_nil given
  have led : Text.dropLead? (c :: word) (c :: (word ++ s)) = some s := dropLead?_append (c :: word) s
  rw [List.cons_append, firstWhole?, if_neg Bool.false_ne_true, led, Option.bind_some, found]
  rfl

/-- The search passes over a text in which the word does not begin. -/
theorem first?_append (missed : ∀ before rest, front = before ++ rest → rest ≠ [] →
      Text.dropLead? word (rest ++ s) = none) :
    first? word arguments? (front ++ s) = first? word arguments? s := by
  induction front with
  | nil => rfl
  | cons c front ih =>
      have here := missed [] (c :: front) rfl (List.cons_ne_nil c front)
      rw [List.cons_append] at here
      rw [List.cons_append, first?, here]
      exact ih fun before rest split => missed (c :: before) rest (congrArg (c :: ·) split)

theorem firstWhole?_append (inWord : Bool)
    (missed : ∀ before rest, front = before ++ rest → rest ≠ [] →
      goesOn inWord before = false → Text.dropLead? word (rest ++ s) = none) :
    firstWhole? word arguments? inWord (front ++ s) =
      firstWhole? word arguments? (goesOn inWord front) s := by
  induction front generalizing inWord with
  | nil => rfl
  | cons c front ih =>
      have later := ih c.isWord fun before rest split =>
        missed (c :: before) rest (congrArg (c :: ·) split)
      rw [List.cons_append, firstWhole?]
      cases inWord with
      | true => exact later
      | false =>
          have here := missed [] (c :: front) rfl (List.cons_ne_nil c front) rfl
          rw [List.cons_append] at here
          rw [if_neg Bool.false_ne_true, here]
          exact later

end Search

namespace Kind

/-- Where a command of the kind cannot begin, and no word is going on at the end, the word is not
found, whatever comes next. -/
theorem missed {k : Kind} {front before rest : Text} (clean : ¬ k.Starts front)
    (ended : goesOn false front = false) (split : front = before ++ rest) (given : rest ≠ [])
    (free : k.whole = true → goesOn false before = false) (s : Text) :
    Text.dropLead? k.word (rest ++ s) = none := by
  rw [Option.eq_none_iff_forall_ne_some]
  intro more found
  -- A word that reached past the text would make it end in a letter.
  have short : ¬ ∃ cut, k.stem = rest ++ cut := by
    rintro ⟨cut, inner⟩
    have letters : ∀ c ∈ rest, c.isWord = true := fun c member =>
      k.stem_letters c (inner ▸ List.mem_append_left cut member)
    rw [split, goesOn_append, goesOn_of_letters given letters] at ended
    cases ended
  rw [dropLead?_eq_some_iff, word, List.append_assoc] at found
  obtain ⟨cut, inner, _⟩ | ⟨cut, inner, outer⟩ := List.append_eq_append_iff.1 found
  · exact short ⟨cut, inner⟩
  · cases cut with
    | nil => exact short ⟨[], by rw [inner, List.append_nil, List.append_nil]⟩
    | cons c cut =>
        obtain ⟨rfl, _⟩ := List.cons.inj outer
        exact clean ⟨before, cut, by rw [split, inner, word, List.append_assoc]; rfl, free⟩

theorem find?_append {k : Kind} {front : Text} (clean : ¬ k.Starts front)
    (ended : goesOn false front = false) (s : Text) : k.find? (front ++ s) = k.find? s := by
  rw [find?, find?]
  split
  · next whole =>
      rw [firstWhole?_append false fun before rest split given apart =>
        missed clean ended split given (fun _ => apart) s, ended]
  · next part =>
      exact first?_append fun before rest split given =>
        missed clean ended split given (fun whole => absurd whole part) s

theorem find?_of_clean {k : Kind} {s : Text} (clean : ¬ k.Starts s) : k.find? s = none := by
  have missed {before rest : Text} (split : s = before ++ rest)
      (free : k.whole = true → goesOn false before = false) :
      Text.dropLead? k.word (rest ++ []) = none := by
    rw [Option.eq_none_iff_forall_ne_some]
    intro more found
    rw [dropLead?_eq_some_iff, List.append_nil] at found
    exact clean ⟨before, more, by rw [split, found], free⟩
  rw [find?, ← List.append_nil s]
  split
  · next whole =>
      rw [firstWhole?_append false fun before rest split _ apart => missed split fun _ => apart]
      rfl
  · next part =>
      rw [first?_append fun before rest split _ => missed split fun whole => absurd whole part]
      rfl

theorem find?_here {k : Kind} {s : Text} {c : Command} (found : k.arguments? s = some c) :
    k.find? (k.word ++ s) = some c := by
  have given : k.word ≠ [] := by simp [word]
  rw [find?]
  split
  · exact firstWhole?_here given found
  · exact first?_here given found

end Kind

/-! Arguments. -/

inductive Setting (channel value : Text) : Text → Prop
  | intro (one other : Text) (given : channel ≠ []) (letters : ∀ c ∈ channel, c.isWord = true)
      (unbracketed : Unbracketed value) (trimmed : Trimmed value)
      (first : Padded channel one) (second : Padded value other) :
      Setting channel value (one ++ .char ',' :: other)

inductive Pair (x y : Text) : Text → Prop
  | intro (one other : Text) (solid : Solid x) (unbracketed : Unbracketed x)
      (single : .char ',' ∉ x) (solid' : Solid y) (unbracketed' : Unbracketed y)
      (first : Padded x one) (second : Padded y other) :
      Pair x y (one ++ .char ',' :: other)

variable {channel value x y s : Text}

theorem argument?_of_unbracketed (closing : .char ')' ∉ s) (rest : Text) :
    argument? (s ++ .char ')' :: rest) = some s := by
  have cut : Text.cut? (text ")") (s ++ .char ')' :: rest) = some (s, rest) :=
    cut?_single closing rest
  rw [argument?, cut, Option.map_some]

theorem dropPast?_of_void {c : Char} (visible : (CodePoint.char c).isBlank = false) (void : Void s)
    (rest : Text) : Text.dropPast? c (s ++ .char c :: rest) = some rest := by
  have start : Text.trimStart (.char c :: rest) = .char c :: rest :=
    List.dropWhile_cons_of_neg (by simp [visible])
  rw [Text.dropPast?, trimStart_append_of_void void, start]
  exact dropLead?_append [.char c] rest

theorem Setting.unopened (setting : Setting channel value s) : .char '(' ∉ s := by
  obtain ⟨one, other, _, letters, unbracketed, _, first, second⟩ := setting
  have noLetter : .char '(' ∉ channel := fun member => absurd (letters _ member) (by decide)
  simp only [List.mem_append, List.mem_cons, not_or]
  exact ⟨first.not_mem rfl noLetter, by decide, second.not_mem rfl unbracketed.opening⟩

theorem Setting.reads (setting : Setting channel value s) (rest : Text) :
    setting? (s ++ .char ')' :: rest) = some (channel, value) := by
  obtain ⟨one, other, given, letters, unbracketed, trimmed, first, second⟩ := setting
  have noClosing : .char ')' ∉ other := second.not_mem rfl unbracketed.closing
  obtain ⟨front, back, before, after⟩ := first
  have start : ∀ more, Text.trimStart (channel ++ more) = channel ++ more := by
    intro more
    obtain ⟨c, name, rfl⟩ := List.exists_cons_of_ne_nil given
    have lead := CodePoint.isBlank_of_isWord (letters c List.mem_cons_self)
    exact List.dropWhile_cons_of_neg (by simp [lead])
  have stops : ∀ more, (channel ++ (back ++ .char ',' :: more)).span CodePoint.isWord =
      (channel, back ++ .char ',' :: more) := by
    intro more
    have stopped : (back ++ .char ',' :: more).takeWhile CodePoint.isWord = [] ∧
        (back ++ .char ',' :: more).dropWhile CodePoint.isWord = back ++ .char ',' :: more := by
      cases back with
      | nil => exact ⟨rfl, rfl⟩
      | cons c back =>
          have blank := after c List.mem_cons_self
          have other : c.isWord = false := by
            rw [Bool.eq_false_iff]
            intro letter
            rw [CodePoint.isBlank_of_isWord letter] at blank
            cases blank
          simp [other]
    rw [List.span_eq_takeWhile_dropWhile, List.takeWhile_append_of_pos letters,
      List.dropWhile_append_of_pos letters, stopped.1, stopped.2, List.append_nil]
  have notEmpty : channel.isEmpty = false := by simpa using given
  rw [setting?]
  simp only [List.append_assoc, List.cons_append, trimStart_append_of_void before, start, stops,
    notEmpty, Bool.false_eq_true, if_false, dropPast?_of_void (c := ',') rfl after,
    argument?_of_unbracketed noClosing, second.trim trimmed, Option.bind_eq_bind,
    Option.bind_some, Option.pure_def]

theorem nodeName?_of_padded (padded : Padded x s) (solid : Solid x) : nodeName? s = some x := by
  obtain ⟨c, name, rfl⟩ := List.exists_cons_of_ne_nil solid.given
  rw [nodeName?, padded.trim solid.toTrimmed]

theorem Pair.unopened (pair : Pair x y s) : .char '(' ∉ s := by
  obtain ⟨one, other, _, unbracketed, _, _, unbracketed', first, second⟩ := pair
  simp only [List.mem_append, List.mem_cons, not_or]
  exact ⟨first.not_mem rfl unbracketed.opening, by decide,
    second.not_mem rfl unbracketed'.opening⟩

theorem Pair.reads (pair : Pair x y s) (rest : Text) :
    pair? (s ++ .char ')' :: rest) = some (x, y) := by
  obtain ⟨one, other, solid, unbracketed, single, solid', unbracketed', first, second⟩ := pair
  have cut : Text.cut? (text ",") (one ++ .char ',' :: (other ++ .char ')' :: rest)) =
      some (one, other ++ .char ')' :: rest) :=
    cut?_single (first.not_mem rfl single) _
  have unclosed : one.elem (.char ')') = false := by
    simpa using first.not_mem rfl unbracketed.closing
  have noClosing : .char ')' ∉ other := second.not_mem rfl unbracketed'.closing
  rw [pair?]
  simp only [List.append_assoc, List.cons_append, cut, unclosed, Bool.false_eq_true, if_false,
    nodeName?_of_padded first solid, argument?_of_unbracketed noClosing,
    nodeName?_of_padded second solid', Option.bind_eq_bind, Option.bind_some, Option.pure_def]

inductive Arguments : Command → Text → Prop
  | setDac {channel value s : Text} (setting : Setting channel value s) :
      Arguments (.setDac channel value) s
  | setPin {pin value s : Text} (setting : Setting pin value s) :
      Arguments (.setPin pin value) s
  | connect {x y s : Text} (pair : Pair x y s) : Arguments (.connect x y) s
  | disconnect {x y s : Text} (pair : Pair x y s) : Arguments (.disconnect x y) s
  | clear {s : Text} (void : Void s) : Arguments .clear s

variable {c : Command}

theorem Arguments.unopened (arguments : Arguments c s) : .char '(' ∉ s := by
  cases arguments with
  | setDac setting => exact setting.unopened
  | setPin setting => exact setting.unopened
  | connect pair => exact pair.unopened
  | disconnect pair => exact pair.unopened
  | clear void => exact fun member => absurd (void _ member) (by decide)

theorem Arguments.reads (arguments : Arguments c s) (rest : Text) :
    c.kind.arguments? (s ++ .char ')' :: rest) = some c := by
  cases arguments with
  | setDac setting => rw [kind, Kind.arguments?, setting.reads, Option.map_some]
  | setPin setting => rw [kind, Kind.arguments?, setting.reads, Option.map_some]
  | connect pair => rw [kind, Kind.arguments?, pair.reads, Option.map_some]
  | disconnect pair => rw [kind, Kind.arguments?, pair.reads, Option.map_some]
  | clear void =>
      rw [kind, Kind.arguments?, nothing?, dropPast?_of_void (c := ')') rfl void, Option.map_some,
        Option.map_some]

/-! Commands in their places. -/

def Written (c : Command) (s : Text) : Prop :=
  ∃ inner, Arguments c inner ∧ s = c.kind.word ++ (inner ++ [.char ')'])

theorem Written.found (written : c.Written s) (rest : Text) : c.kind.find? (s ++ rest) = some c := by
  obtain ⟨inner, arguments, rfl⟩ := written
  rw [List.append_assoc, List.append_assoc]
  exact Kind.find?_here (arguments.reads rest)

theorem Written.ended (written : c.Written s) : goesOn false s = false := by
  obtain ⟨inner, _, rfl⟩ := written
  rw [← List.append_assoc, goesOn_append]
  rfl

/-- The only parenthesis that opens in a command is the one behind its word. -/
theorem Written.clean (written : c.Written s) {k : Kind} (apart : k ≠ c.kind) : ¬ k.Starts s := by
  obtain ⟨inner, arguments, rfl⟩ := written
  rintro ⟨before, after, split, free⟩
  have unopened : .char '(' ∉ inner ++ [.char ')'] := by
    simp only [List.mem_append, List.mem_singleton, not_or]
    exact ⟨arguments.unopened, by decide⟩
  simp only [Kind.word, List.append_assoc, List.singleton_append] at split
  rw [← List.append_assoc] at split
  obtain ⟨ends, _⟩ := (List.append_cons_inj_of_notMem c.kind.not_mem_stem unopened).1 split
  obtain ⟨whole, inside⟩ := Kind.whole_of_stem apart ends
  rw [free whole] at inside
  cases inside

/-- A request that holds some commands and no other. Before each there may be any text in which
no command begins and that does not end inside a word. -/
inductive Holds : List Command → Text → Prop
  | none {s : Text} (clean : ∀ k, ¬ Kind.Starts k s) : Holds [] s
  | more {c : Command} {commands : List Command} {front s rest : Text}
      (clean : ∀ k, ¬ Kind.Starts k front) (ended : ∀ c ∈ front.getLast?, c.isWord = false)
      (written : c.Written s) (later : Holds commands rest) :
      Holds (c :: commands) (front ++ (s ++ rest))

theorem Holds.after {commands : List Command} {front rest : Text} (unopened : .char '(' ∉ front)
    (ended : ∀ c ∈ front.getLast?, c.isWord = false) (written : c.Written s)
    (later : Holds commands rest) : Holds (c :: commands) (front ++ (s ++ rest)) :=
  .more (fun k => k.not_starts_of_unopened unopened) ended written later

theorem holds_nothing {rest : Text} (unopened : .char '(' ∉ rest) : Holds [] rest :=
  .none fun k => k.not_starts_of_unopened unopened

/-- A search for a kind of command finds the first one that a request holds. -/
theorem Holds.find? {commands : List Command} {request : Text} (holds : Holds commands request)
    (k : Kind) : k.find? request = commands.find? (·.kind = k) := by
  induction holds with
  | none clean => exact Kind.find?_of_clean (clean k)
  | @more c commands front s rest clean ended written later ih =>
      rw [Kind.find?_append (clean k) (goesOn_eq_false ended)]
      by_cases same : c.kind = k
      · subst same
        rw [written.found rest, List.find?_cons_of_pos (by simp)]
      · rw [Kind.find?_append (written.clean (Ne.symm same)) written.ended, ih,
          List.find?_cons_of_neg (by simpa using same)]

end Command

end Breadboard
