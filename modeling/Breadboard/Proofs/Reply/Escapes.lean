import Breadboard.Proofs.Reply.Envelope

/-! Escape sequences that are complete, and texts with any number of them in them: of
such a text the pieces between the sequences are left, and all of each piece. -/

namespace Breadboard.Ansi

def bell : CodePoint := .char '\x07'

def commandEnds : List Text := [[bell], [escape, .char '\\']]

/-- A complete escape sequence. -/
inductive Complete : Text → Prop
  | control {parameters intermediates : Text} {final : CodePoint}
      (low : ∀ c ∈ parameters, isBetween 0x30 0x3F c = true)
      (middle : ∀ c ∈ intermediates, isBetween 0x20 0x2F c = true)
      (high : isBetween 0x40 0x7E final = true) :
      Complete (escape :: .char '[' :: (parameters ++ (intermediates ++ [final])))
  | command {body ending : Text} (inside : ∀ c ∈ body, c ≠ bell ∧ c ≠ escape)
      (ends : ending ∈ commandEnds) :
      Complete (escape :: .char ']' :: (body ++ ending))
  | pair {second : CodePoint}
      (own : isBetween 0x40 0x5A second = true ∨ second ∈ text "\\^_") :
      Complete [escape, second]

theorem isBetween_iff {low high : Nat} {c : CodePoint} :
    isBetween low high c = true ↔ low ≤ c.toNat ∧ c.toNat ≤ high := by
  rw [isBetween, Bool.and_eq_true, decide_eq_true_eq, decide_eq_true_eq]

/-- Ranges without a common number have no common character. -/
theorem isBetween_apart {low high low' high' : Nat} {c : CodePoint}
    (here : isBetween low high c = true) (apart : high < low' ∨ high' < low) :
    ¬ isBetween low' high' c = true := by
  rw [isBetween_iff] at here ⊢
  omega

/-! What follows a sequence is found by what reads it. -/

theorem afterControl?_append {parameters intermediates : Text} {final : CodePoint}
    (low : ∀ c ∈ parameters, isBetween 0x30 0x3F c = true)
    (middle : ∀ c ∈ intermediates, isBetween 0x20 0x2F c = true)
    (high : isBetween 0x40 0x7E final = true) (rest : Text) :
    afterControl? (parameters ++ (intermediates ++ final :: rest)) = some rest := by
  have past : (parameters ++ (intermediates ++ final :: rest)).dropWhile
      (isBetween 0x30 0x3F) = intermediates ++ final :: rest := by
    rw [List.dropWhile_append_of_pos low]
    cases intermediates with
    | nil => exact List.dropWhile_cons_of_neg (isBetween_apart high (by omega))
    | cons c more =>
        have first := middle c List.mem_cons_self
        exact List.dropWhile_cons_of_neg (isBetween_apart first (by omega))
  have last : (intermediates ++ final :: rest).dropWhile (isBetween 0x20 0x2F) =
      final :: rest := by
    rw [List.dropWhile_append_of_pos middle]
    exact List.dropWhile_cons_of_neg (isBetween_apart high (by omega))
  rw [afterControl?, past, last]
  exact if_pos high

theorem afterCommand?_append {body ending : Text}
    (inside : ∀ c ∈ body, c ≠ bell ∧ c ≠ escape) (ends : ending ∈ commandEnds)
    (rest : Text) : afterCommand? (body ++ (ending ++ rest)) = some rest := by
  induction body with
  | nil =>
      obtain rfl | rfl : ending = [bell] ∨ ending = [escape, .char '\\'] := by
        simpa [commandEnds] using ends
      · rfl
      · rfl
  | cons c body ih =>
      obtain ⟨⟨other, plain⟩, more⟩ := List.forall_mem_cons.1 inside
      rw [bell] at other
      rw [List.cons_append, afterCommand?.eq_def]
      dsimp only
      rw [if_neg other, if_neg plain, ih more]

theorem Complete.exists_eq {q : Text} (complete : Complete q) : ∃ s, q = escape :: s := by
  cases complete with
  | control => exact ⟨_, rfl⟩
  | command => exact ⟨_, rfl⟩
  | pair => exact ⟨_, rfl⟩

theorem afterEscape?_append {s : Text} (complete : Complete (escape :: s)) (rest : Text) :
    afterEscape? (s ++ rest) = some rest := by
  cases complete with
  | @control parameters intermediates final low middle high =>
      have read := afterControl?_append low middle high rest
      rw [List.cons_append, List.append_assoc, List.append_assoc, List.singleton_append,
        afterEscape?, if_neg (by decide), if_pos rfl, read]
  | @command body ending inside ends =>
      have read := afterCommand?_append inside ends rest
      rw [List.cons_append, List.append_assoc, afterEscape?, if_pos rfl, read,
        Option.getD_some]
  | @pair second own =>
      have fits : second ≠ .char ']' ∧ second ≠ .char '[' ∧
          isBetween 0x40 0x5F second = true := by
        rcases own with letter | sign
        · rw [isBetween_iff] at letter ⊢
          refine ⟨?_, ?_, by omega⟩
          · rintro rfl
            exact absurd letter.2 (by decide)
          · rintro rfl
            exact absurd letter.2 (by decide)
        · have each : ∀ c ∈ text "\\^_", c ≠ .char ']' ∧ c ≠ .char '[' ∧
              isBetween 0x40 0x5F c = true := by decide
          exact each second sign
      rw [List.singleton_append, afterEscape?, if_neg fits.1, if_neg fits.2.1,
        if_pos fits.2.2]

theorem strip_append_of_complete {q : Text} (complete : Complete q) (rest : Text) :
    strip (q ++ rest) = strip rest := by
  obtain ⟨s, rfl⟩ := complete.exists_eq
  have read := afterEscape?_append complete rest
  rw [List.cons_append, strip, if_pos rfl]
  split
  · next found =>
      rw [read] at found
      cases found
      rfl
  · next missed =>
      rw [read] at missed
      cases missed

theorem strip_append_of_free {piece : Text} (free : escape ∉ piece) (rest : Text) :
    strip (piece ++ rest) = piece ++ strip rest := by
  induction piece with
  | nil => rfl
  | cons c piece ih =>
      have other : c ≠ escape := fun same => free (same ▸ List.mem_cons_self)
      rw [List.cons_append, strip, if_neg other,
        ih fun member => free (List.mem_cons_of_mem c member), List.cons_append]

/-! Texts of pieces and sequences. -/

/-- A part of a text: a piece without escapes, or a complete sequence. -/
inductive Part where
  | piece (s : Text) (free : escape ∉ s)
  | sequence (q : Text) (complete : Complete q)

def Part.whole : Part → Text
  | .piece s _ => s
  | .sequence q _ => q

def Part.own : Part → Text
  | .piece s _ => s
  | .sequence _ _ => []

def written (parts : List Part) : Text := parts.flatMap Part.whole

def kept (parts : List Part) : Text := parts.flatMap Part.own

theorem strip_written_append (parts : List Part) (rest : Text) :
    strip (written parts ++ rest) = kept parts ++ strip rest := by
  induction parts with
  | nil => rfl
  | cons part parts ih =>
      rw [written] at ih
      rw [written, kept, List.flatMap_cons, List.flatMap_cons, List.append_assoc]
      cases part with
      | piece s free =>
          rw [Part.whole, strip_append_of_free free, ih, kept, Part.own, List.append_assoc]
      | sequence q complete =>
          rw [Part.whole, strip_append_of_complete complete, ih, kept, Part.own,
            List.nil_append]

theorem strip_written (parts : List Part) : strip (written parts) = kept parts := by
  have whole := strip_written_append parts []
  rwa [List.append_nil, strip, List.append_nil] at whole

/-- Of pieces without escapes and complete sequences, in any order, just the pieces are
left, and whatever comes after them is read as it would be without them. -/
theorem strip_interleaved (parts : List Part) :
    strip (parts.flatMap Part.whole) = parts.flatMap Part.own ∧
      ∀ rest, strip (parts.flatMap Part.whole ++ rest) =
        parts.flatMap Part.own ++ strip rest :=
  ⟨strip_written parts, strip_written_append parts⟩

/-- The body of a command may look like another sequence, and so may what follows. -/
example : strip (text "a\x1b]0;[2J\x07b]\x1b[1;31 q\x1b\\\x1b]\x1b\\[0m\x07") =
    text "ab][0m\x07" := by
  decide +kernel

end Breadboard.Ansi
