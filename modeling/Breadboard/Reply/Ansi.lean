import Breadboard.Text.Basic

/-! Terminal escape sequences and how a text is rid of them. -/

namespace Breadboard.Ansi

def escape : CodePoint := .char '\x1b'

def isBetween (low high : Nat) (c : CodePoint) : Bool := low ≤ c.toNat && c.toNat ≤ high

/-- What follows an operating system command, after its `ESC ]`: a body without bell and escape,
then a bell or `ESC \`. -/
def afterCommand? : Text → Option Text
  | [] => none
  | c :: s =>
      if c = .char '\x07' then some s
      else if c = escape then
        match s with
        | .char '\\' :: s => some s
        | _ => none
      else afterCommand? s

/-- What follows a control sequence, after its `ESC [`: parameters, intermediates, one final. -/
def afterControl? (s : Text) : Option Text :=
  match (s.dropWhile (isBetween 0x30 0x3F)).dropWhile (isBetween 0x20 0x2F) with
  | [] => none
  | c :: s => if isBetween 0x40 0x7E c then some s else none

def afterEscape? : Text → Option Text
  | [] => none
  | c :: s =>
      if c = .char ']' then some ((afterCommand? s).getD s)
      else if c = .char '[' then afterControl? s
      else if isBetween 0x40 0x5F c then some s
      else none

theorem afterCommand?_length {s rest : Text} (h : afterCommand? s = some rest) :
    rest.length ≤ s.length := by
  fun_induction afterCommand? s with
  | case1 => simp at h
  | case2 s => cases h; simp
  | case3 s => cases h; simp; omega
  | case4 s => simp at h
  | case5 c s _ _ ih => have := ih h; simp; omega

theorem afterControl?_length {s rest : Text} (h : afterControl? s = some rest) :
    rest.length ≤ s.length := by
  unfold afterControl? at h
  have parameters := (List.dropWhile_suffix (isBetween 0x30 0x3F) (l := s)).length_le
  have intermediates := (List.dropWhile_suffix (isBetween 0x20 0x2F)
    (l := s.dropWhile (isBetween 0x30 0x3F))).length_le
  split at h
  · simp at h
  · next c t ht =>
      rw [ht] at intermediates
      split at h
      · cases h
        simp at intermediates
        omega
      · simp at h

theorem afterEscape?_length {s rest : Text} (h : afterEscape? s = some rest) :
    rest.length ≤ s.length := by
  unfold afterEscape? at h
  split at h
  · simp at h
  · next c s =>
      split at h
      · cases hc : afterCommand? s with
        | none => simp [hc] at h; subst h; simp
        | some r => simp [hc] at h; subst h; have := afterCommand?_length hc; simp; omega
      · split at h
        · have := afterControl?_length h; simp; omega
        · split at h
          · cases h; simp
          · simp at h

/-- The text without its escape sequences. An escape that begins none is kept. -/
def strip : Text → Text
  | [] => []
  | c :: s =>
      if c = escape then
        match h : afterEscape? s with
        | some rest =>
            have : rest.length ≤ s.length := afterEscape?_length h
            strip rest
        | none => c :: strip s
      else c :: strip s
termination_by s => s.length

end Breadboard.Ansi
