import Breadboard.Text.Digit
import Breadboard.Text.Name

/-! String literals: what a text that begins and ends with a double quote spells. Literals next to
each other join; between them stand blanks, after the last one perhaps a comment. -/

namespace Breadboard.Literal

structure Fence where
  quote : CodePoint
  triple : Bool

def Fence.close? (fence : Fence) : Text → Option Text
  | a :: s =>
      if a ≠ fence.quote then none
      else if !fence.triple then some s
      else match s with
        | b :: c :: s => if b = fence.quote ∧ c = fence.quote then some s else none
        | _ => none
  | [] => none

/-- The body of a literal and what follows it. A backslash keeps the next code point in. -/
def body? (fence : Fence) : Text → Option (Text × Text)
  | [] => none
  | .char '\\' :: [] => none
  | .char '\\' :: c :: s => (body? fence s).map fun (b, rest) => (.char '\\' :: c :: b, rest)
  | c :: s =>
      match fence.close? (c :: s) with
      | some rest => some ([], rest)
      | none =>
          if c = .char '\n' ∧ !fence.triple then none
          else (body? fence s).map fun (b, rest) => (c :: b, rest)

def letterEscape? : Char → Option Char
  | '\\' => some '\\'
  | '\x27' => some '\x27'
  | '\x22' => some '\x22'
  | 'a' => some '\x07'
  | 'b' => some '\x08'
  | 'f' => some '\x0c'
  | 'n' => some '\n'
  | 'r' => some '\r'
  | 't' => some '\t'
  | 'v' => some '\x0b'
  | _ => none

def hexNumber? (digits : Text) : Option Nat :=
  digits.foldlM (fun n c => c.hexDigit?.map (16 * n + ·)) 0

def octalDigit? (c : CodePoint) : Option Nat := c.asciiDigit?.filter (· < 8)

def octal? : Text → Option (Nat × Text)
  | [] => none
  | a :: s => (octalDigit? a).map fun a =>
      match s with
      | [] => (a, [])
      | b :: s =>
          match octalDigit? b with
          | none => (a, b :: s)
          | some b =>
              match s with
              | [] => (8 * a + b, [])
              | c :: s =>
                  match octalDigit? c with
                  | none => (8 * a + b, c :: s)
                  | some c => (64 * a + 8 * b + c, s)

def numbered? (width : Nat) (s : Text) : Option (Text × Text) :=
  if s.length < width then none
  else ((hexNumber? (s.take width)).bind CodePoint.ofNat?).map fun point => ([point], s.drop width)

def named? : Text → Option (Text × Text)
  | .char '\x7b' :: s =>
      match s.dropWhile (· ≠ .char '\x7d') with
      | [] => none
      | _ :: rest =>
          (Name.find? (s.takeWhile (· ≠ .char '\x7d'))).map fun point => ([point], rest)
  | _ => none

/-- One escape after its backslash: what it spells and what follows. An escape nobody knows stands
for itself; one that is begun and not finished is refused. -/
def escape? : Text → Option (Text × Text)
  | [] => none
  | .lone o :: s => some ([.char '\\', .lone o], s)
  | .char c :: s =>
      if c = '\n' then some ([], s)
      else if c = 'x' then numbered? 2 s
      else if c = 'u' then numbered? 4 s
      else if c = 'U' then numbered? 8 s
      else if c = 'N' then named? s
      else match letterEscape? c with
        | some d => some ([.char d], s)
        | none =>
            match octal? (.char c :: s) with
            | some (n, rest) => (CodePoint.ofNat? n).map fun point => ([point], rest)
            | none => some ([.char '\\', .char c], s)

theorem octal?_length {s rest : Text} {n : Nat} (h : octal? s = some (n, rest)) :
    rest.length < s.length := by
  cases s with
  | nil => simp [octal?] at h
  | cons a s =>
      simp only [octal?, Option.map_eq_some_iff] at h
      obtain ⟨a', _, h⟩ := h
      repeat' split at h
      all_goals cases h; simp <;> omega

theorem numbered?_length {width : Nat} {s out rest : Text}
    (h : numbered? width s = some (out, rest)) : rest.length ≤ s.length := by
  unfold numbered? at h
  split at h
  · simp at h
  · simp only [Option.map_eq_some_iff] at h
    obtain ⟨_, _, h⟩ := h
    cases h
    simp

theorem named?_length {s out rest : Text} (h : named? s = some (out, rest)) :
    rest.length ≤ s.length := by
  unfold named? at h
  split at h
  · next s =>
      split at h
      · simp at h
      · next c more hd =>
          have bound : (c :: more).length ≤ s.length := hd ▸ (List.dropWhile_suffix _).length_le
          simp only [Option.map_eq_some_iff] at h
          obtain ⟨_, _, h⟩ := h
          cases h
          simp only [List.length_cons] at bound ⊢
          omega
  · simp at h

theorem escape?_length {s out rest : Text} (h : escape? s = some (out, rest)) :
    rest.length < s.length := by
  unfold escape? at h
  split at h
  · simp at h
  · cases h; simp
  · repeat' split at h
    · cases h; simp
    · exact Nat.lt_succ_of_le (numbered?_length h)
    · exact Nat.lt_succ_of_le (numbered?_length h)
    · exact Nat.lt_succ_of_le (numbered?_length h)
    · exact Nat.lt_succ_of_le (named?_length h)
    · cases h; simp
    · next ho =>
        simp only [Option.map_eq_some_iff] at h
        obtain ⟨_, _, h⟩ := h
        cases h
        exact octal?_length ho
    · cases h; simp

def unescape? : Text → Option Text
  | [] => some []
  | .char '\\' :: s =>
      match h : escape? s with
      | none => none
      | some (out, rest) =>
          have : rest.length < s.length := escape?_length h
          (unescape? rest).map (out ++ ·)
  | c :: s => (unescape? s).map (c :: ·)
termination_by s => s.length

/-- How a literal may be introduced: by nothing or `u`, or by `r`, which turns escapes off. -/
def opening? : Text → Option (Bool × Text)
  | .char c :: .char q :: s =>
      if c = '\x22' ∨ c = '\x27' then some (false, .char c :: .char q :: s)
      else if q = '\x22' ∨ q = '\x27' then
        if c = 'r' ∨ c = 'R' then some (true, .char q :: s)
        else if c = 'u' ∨ c = 'U' then some (false, .char q :: s)
        else none
      else none
  | .char c :: s => if c = '\x22' ∨ c = '\x27' then some (false, .char c :: s) else none
  | _ => none

def one? (s : Text) : Option (Text × Text) := do
  let (raw, s) ← opening? s
  let quote ← s.head?
  let fence : Fence := ⟨quote, s.take 3 == [quote, quote, quote]⟩
  let (body, rest) ← body? fence (s.drop (if fence.triple then 3 else 1))
  return (← if raw then some body else unescape? body, rest)

def skipSpace : Text → Text
  | .char '\\' :: .char '\n' :: s => skipSpace s
  | .char ' ' :: s => skipSpace s
  | .char '\t' :: s => skipSpace s
  | .char '\x0c' :: s => skipSpace s
  | s => s

/-- Whether blanks and comments are all there is to the end. A backslash joins a line to the
next. -/
def onlyComments (inComment : Bool) : Text → Bool
  | [] => true
  | .char '\\' :: .char '\n' :: s => onlyComments false s
  | c :: s =>
      if c = .char '\n' then onlyComments false s
      else if inComment then onlyComments true s
      else if c = .char '#' then onlyComments true s
      else (c = .char ' ' || c = .char '\t' || c = .char '\x0c') && onlyComments false s

/-- The literals of a text from here to its end; each takes at least one code point. -/
def join? : (most : Nat) → Text → Option Text
  | 0, s => if onlyComments false s then some [] else none
  | most + 1, s =>
      let s := skipSpace s
      if onlyComments false s then some []
      else do
        let (first, rest) ← one? s
        return first ++ (← join? most rest)

def read? (s : Text) : Option Text :=
  if s.any fun c => c.isLone || c.toNat == 0 then none
  else
    let s := Text.unifyLines s
    join? s.length s

/-- A text that is a string literal stands for what it spells, any other for itself. -/
def decode (s : Text) : Text :=
  if 2 ≤ s.length ∧ s.head? = some (.char '\x22') ∧ s.getLast? = some (.char '\x22') then
    (read? s).getD s
  else s

end Breadboard.Literal
