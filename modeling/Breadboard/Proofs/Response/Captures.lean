import Breadboard.Proofs.Number.Span
import Breadboard.Proofs.Response.Template

/-! Templates put together from text and from references to groups. Each
reference becomes what its group took, and nothing that is put in is looked at
again. -/

namespace Breadboard

/-! What a match has for a reference. -/

namespace Match

/-- The match itself is number 0; a group that took no part, or that is not
there, stands for nothing. -/
def captured (m : Match) : Nat → Text
  | 0 => m.whole
  | n + 1 =>
      match m.groups[n]? with
      | some (some s) => s
      | some none => []
      | none => []

theorem getD_group? (m : Match) (n : Nat) : (m.group? n).getD [] = m.captured n := by
  cases n with
  | zero => rfl
  | succ n =>
      rw [group?, if_neg n.succ_ne_zero, Nat.add_sub_cancel, captured]
      cases m.groups[n]? with
      | none => rfl
      | some group => cases group <;> rfl

/-- A match with so many groups, all taken from one text. -/
structure From (m : Match) (groups : Nat) (subject : Text) : Prop where
  groups : m.groups.length = groups
  whole : m.whole <:+: subject
  taken : ∀ s, some s ∈ m.groups → s <:+: subject

variable {m : Match} {groups : Nat} {subject : Text}

theorem From.captured (taken : From m groups subject) (n : Nat) :
    m.captured n <:+: subject := by
  have nothing : [] <:+: subject := List.nil_infix
  cases n with
  | zero => exact taken.whole
  | succ n =>
      rw [Match.captured]
      split
      · next s own => exact taken.taken s (List.mem_of_getElem? own)
      · exact nothing
      · exact nothing

theorem From.captured_beyond (taken : From m groups subject) {n : Nat} (beyond : groups < n) :
    m.captured n = [] := by
  obtain ⟨n, rfl⟩ := Nat.exists_eq_add_one_of_ne_zero (Nat.ne_zero_of_lt beyond)
  have outside : m.groups.length ≤ n := by
    rw [taken.groups]
    exact Nat.le_of_lt_succ beyond
  rw [Match.captured, List.getElem?_eq_none outside]

end Match

namespace Regex

theorem infix_extract (subject : Array CodePoint) (first last : Nat) :
    (subject.extract first last).toList <:+: subject.toList := by
  rw [Array.toList_extract, List.extract_eq_take_drop]
  exact (List.take_prefix _ _).isInfix.trans (List.drop_suffix _ _).isInfix

variable {r : Regex} {m : Match}

theorem from_matchAt? {subject : Array CodePoint} {i : Nat}
    (found : r.matchAt? subject i = some m) : m.From r.groups subject.toList := by
  rw [matchAt?] at found
  dsimp only at found
  split at found
  · cases found
    refine ⟨by simp, infix_extract .., fun s member => ?_⟩
    obtain ⟨g, _, own⟩ := List.mem_map.1 member
    obtain ⟨span, _, rfl⟩ := Option.map_eq_some_iff.1 own
    exact infix_extract ..
  · cases found

theorem from_searchFrom? {subject : Array CodePoint} {i length : Nat}
    (found : r.searchFrom? subject i length = some m) : m.From r.groups subject.toList := by
  have here {i : Nat} (found : (if r.mayBeginAt subject i then r.matchAt? subject i else none) =
      some m) : m.From r.groups subject.toList := by
    split at found
    · exact from_matchAt? found
    · cases found
  induction length generalizing i with
  | zero => exact here found
  | succ length ih =>
      rw [searchFrom?] at found
      generalize now : (if r.mayBeginAt subject i then r.matchAt? subject i else none) = first
        at found
      cases first with
      | none => exact ih found
      | some first =>
          cases found
          exact here now

/-- Whatever a search finds is taken from what was searched. -/
theorem from_search? {subject : Text} (found : r.search? subject = some m) :
    m.From r.groups subject :=
  from_searchFrom? found

end Regex

/-! Templates. -/

namespace Template

inductive Spells : Text → Nat → Prop
  | single {c : CodePoint} {d : Nat} (digit : c.digit? = some d) : Spells [c] d
  | more {s : Text} {n : Nat} {c : CodePoint} {d : Nat} (lead : Spells s n)
      (digit : c.digit? = some d) : Spells (s ++ [c]) (10 * n + d)

inductive Piece where
  | literal (s : Text)
  | reference (digits : Text) (number : Nat)

namespace Piece

def filled (m : Match) : Piece → Text
  | literal s => s
  | reference _ number => m.captured number

def Endless : Piece → Prop
  | literal _ => False
  | reference digits _ => mostDigits < digits.length

instance : (piece : Piece) → Decidable piece.Endless
  | literal _ => inferInstanceAs (Decidable False)
  | reference digits _ => inferInstanceAs (Decidable (mostDigits < digits.length))

def outcome (m : Match) (piece : Piece) : Except IntegerFault Text :=
  if piece.Endless then .error .tooLong else .ok (piece.filled m)

theorem outcome_reference (m : Match) (digits : Text) (n : Nat) :
    (reference digits n).outcome m =
      if mostDigits < digits.length then .error .tooLong else .ok (m.captured n) :=
  rfl

end Piece

/-- Pieces, and the template that they make. No dollar sign stands in text. The
number of a reference stands in braces, or else no digit follows it. -/
inductive Written : List Piece → Text → Prop
  | nil : Written [] []
  | literal {s t : Text} {pieces : List Piece} (free : .char '$' ∉ s)
      (rest : Written pieces t) : Written (.literal s :: pieces) (s ++ t)
  | braced {digits t : Text} {n : Nat} {pieces : List Piece} (spelled : Spells digits n)
      (rest : Written pieces t) :
      Written (.reference digits n :: pieces)
        (.char '$' :: .char '\x7b' :: (digits ++ .char '\x7d' :: t))
  | bare {digits t : Text} {n : Nat} {pieces : List Piece} (spelled : Spells digits n)
      (stop : ∀ c ∈ t.head?, c.isDigit = false) (rest : Written pieces t) :
      Written (.reference digits n :: pieces) (.char '$' :: (digits ++ t))

variable {digits s t template : Text} {n : Nat} {piece : Piece} {pieces : List Piece}

namespace Spells

theorem ne_nil (spelled : Spells s n) : s ≠ [] := by
  cases spelled with
  | single => exact List.cons_ne_nil _ _
  | more => exact List.append_ne_nil_of_right_ne_nil _ (List.cons_ne_nil _ _)

theorem isDigit (spelled : Spells s n) : ∀ c ∈ s, c.isDigit = true := by
  have own {c : CodePoint} {d : Nat} (digit : c.digit? = some d) :
      ∀ other ∈ [c], other.isDigit = true :=
    List.forall_mem_singleton.2 (Option.isSome_of_eq_some digit)
  induction spelled with
  | single digit => exact own digit
  | more lead digit ih => exact List.forall_mem_append.2 ⟨ih, own digit⟩

theorem worth (spelled : Spells s n) : ofDigits (digitValues s) = n := by
  induction spelled with
  | single digit =>
      rw [digitValues, List.filterMap_cons_some digit, List.filterMap_nil, ofDigits,
        List.foldl_cons, List.foldl_nil, Nat.mul_zero, Nat.zero_add]
  | more lead digit ih =>
      rw [digitValues, List.filterMap_append, List.filterMap_cons_some digit, List.filterMap_nil,
        ofDigits, List.foldl_append, ← ofDigits, ← digitValues, ih, List.foldl_cons,
        List.foldl_nil]

theorem digitValues_ne_nil (spelled : Spells s n) : digitValues s ≠ [] := by
  rw [← List.length_pos_iff, length_digitValues spelled.isDigit, List.length_pos_iff]
  exact spelled.ne_nil

theorem ofDigits? (spelled : Spells s n) : ofDigits? (digitValues s) =
    if mostDigits < s.length then .error .tooLong else .ok n := by
  rw [Breadboard.ofDigits?, length_digitValues spelled.isDigit, spelled.worth]

/-- All digits spell a number. -/
theorem of_isDigit (given : s ≠ []) (digits : ∀ c ∈ s, c.isDigit = true) :
    Spells s (ofDigits (digitValues s)) := by
  induction s using List.reverseRecOn with
  | nil => exact absurd rfl given
  | append_singleton s c ih =>
      obtain ⟨d, own⟩ := Option.isSome_iff_exists.1 (digits c (by simp))
      rcases eq_or_ne s [] with rfl | more
      · have alone : Spells [c] d := .single own
        rwa [← alone.worth] at alone
      · have lead := ih more fun c member => digits c (List.mem_append_left _ member)
        have whole := lead.more own
        rwa [← whole.worth] at whole

end Spells

theorem spells_iff : Spells s n ↔
    s ≠ [] ∧ (∀ c ∈ s, c.isDigit = true) ∧ ofDigits (digitValues s) = n :=
  ⟨fun spelled => ⟨spelled.ne_nil, spelled.isDigit, spelled.worth⟩,
    fun ⟨given, digits, worth⟩ => worth ▸ .of_isDigit given digits⟩

instance (s : Text) (n : Nat) : Decidable (Spells s n) := decidable_of_iff _ spells_iff.symm

/-! A reference is read to its end and no further. -/

theorem reference?_braced (spelled : Spells digits n) (t : Text) :
    TemplatePart.reference? (.char '\x7b' :: (digits ++ .char '\x7d' :: t)) =
      some (digitValues digits, t) := by
  have stop : ∀ c ∈ (CodePoint.char '\x7d' :: t).head?, c.isDigit = false := by
    rintro c ⟨⟩
    decide
  rw [TemplatePart.reference?, spanDigits_append spelled.isDigit stop]
  split
  · next none => exact absurd (Prod.mk.inj none).1 spelled.digitValues_ne_nil
  · next same =>
      cases same
      rfl
  · next other => exact absurd rfl (other _ _)

theorem reference?_bare (spelled : Spells digits n) (stop : ∀ c ∈ t.head?, c.isDigit = false) :
    TemplatePart.reference? (digits ++ t) = some (digitValues digits, t) := by
  -- no digit is a brace, so that the number is not taken for one in braces
  have brace : ∀ rest, digits ++ t ≠ .char '\x7b' :: rest := by
    intro rest same
    obtain ⟨c, others, rfl⟩ := List.exists_cons_of_ne_nil spelled.ne_nil
    have digit := spelled.isDigit c List.mem_cons_self
    rw [(List.cons.inj same).1] at digit
    revert digit
    decide
  unfold TemplatePart.reference?
  split
  · next same => exact absurd same (brace _)
  · rw [spanDigits_append spelled.isDigit stop]
    split
    · next none => exact absurd (Prod.mk.inj none).1 spelled.digitValues_ne_nil
    · next same =>
        obtain ⟨values, rest⟩ := Prod.mk.inj same
        rw [values, rest]

/-! One piece, and all of them. -/

theorem expand_spelled (m : Match) (spelled : Spells digits n)
    (found : TemplatePart.reference? s = some (digitValues digits, t)) :
    m.expand (.char '$' :: s) = ((Piece.reference digits n).outcome m).bind fun filled =>
      (m.expand t).map (filled ++ ·) := by
  rw [m.expand_reference found, spelled.ofDigits?, Piece.outcome_reference, ← m.getD_group?]
  split <;> rfl

/-- The first piece is filled, and then what the others make. -/
theorem Written.expand (written : Written (piece :: pieces) template) (m : Match) :
    ∃ rest, Written pieces rest ∧ m.expand template =
      (piece.outcome m).bind fun filled => (m.expand rest).map (filled ++ ·) := by
  cases written with
  | literal free rest => exact ⟨_, rest, m.expand_append free _⟩
  | braced spelled rest => exact ⟨_, rest, expand_spelled m spelled (reference?_braced spelled _)⟩
  | bare spelled stop rest =>
      exact ⟨_, rest, expand_spelled m spelled (reference?_bare spelled stop)⟩

theorem expand_of_finite (m : Match) (written : Written pieces template)
    (finite : ∀ piece ∈ pieces, ¬ piece.Endless) :
    m.expand template = .ok (pieces.flatMap (Piece.filled m)) := by
  induction pieces generalizing template with
  | nil =>
      cases written
      exact m.expand_nil
  | cons piece pieces ih =>
      obtain ⟨first, others⟩ := List.forall_mem_cons.1 finite
      obtain ⟨rest, written, filled⟩ := written.expand m
      rw [filled, ih written others, Piece.outcome, if_neg first, List.flatMap_cons]
      rfl

theorem expand_of_endless (m : Match) (written : Written pieces template)
    (endless : ∃ piece ∈ pieces, piece.Endless) : m.expand template = .error .tooLong := by
  induction pieces generalizing template with
  | nil => simp at endless
  | cons piece pieces ih =>
      obtain ⟨rest, written, filled⟩ := written.expand m
      rw [filled, Piece.outcome]
      split
      · rfl
      · next first =>
          obtain ⟨other, member, long⟩ := endless
          rcases List.mem_cons.1 member with rfl | later
          · exact absurd long first
          · rw [ih written ⟨other, later, long⟩]
            rfl

/-- A template becomes its text with what the groups took in place of the
references, letter by letter, unless a reference has more digits than are read.
All that is put in stands in the text that was searched, and for a number past
the pattern's groups nothing is put in. -/
theorem expand_pieces (m : Match) (written : Written pieces template) :
    ((∀ piece ∈ pieces, ¬ piece.Endless) →
      m.expand template = .ok (pieces.flatMap (Piece.filled m))) ∧
    ((∃ piece ∈ pieces, piece.Endless) → m.expand template = .error .tooLong) ∧
    ∀ (r : Regex) (subject : Text), r.search? subject = some m →
      ∀ n, m.captured n <:+: subject ∧ (r.groups < n → m.captured n = []) :=
  ⟨expand_of_finite m written, expand_of_endless m written, fun r _ found n =>
    have taken := r.from_search? found
    ⟨taken.captured n, taken.captured_beyond⟩⟩

def slyRequest : Text := text " get($\x7b1\x7d$2$, 7)!"

def sly : Match where
  whole := text "get($\x7b1\x7d$2$, 7)"
  groups := [some (text "$\x7b1\x7d$2$"), some (text "7"), none]

def slyPieces : List Piece := [
  .literal (text "v"), .reference (text "1") 1, .literal (text "0"), .reference (text "2") 2,
  .reference (text "3") 3, .reference (text "0") 0, .literal (text " of "),
  .reference (text "9") 9, .reference (text "٢") 2, .literal [], .reference (text "01") 1]

def slyTemplate : Text := text "v$\x7b1\x7d0$2$\x7b3\x7d$0 of $9$٢$\x7b01\x7d"

theorem written_sly : Written slyPieces slyTemplate := by
  refine .literal (by decide) (.braced (by decide) (.literal (by decide) (.bare (by decide) ?_
    (.braced (by decide) (.bare (by decide) ?_ (.literal (by decide) (.bare (by decide) ?_
      (.bare (by decide) ?_ (.literal (by decide) (.braced (by decide) .nil))))))))))
  all_goals decide

theorem sly_filled :
    ∃ r, (Regex.read (text "get\\((.*?), ?(\\d)?(z)?\\)")).toOption = some r ∧
      r.search? slyRequest = some sly ∧ Written slyPieces slyTemplate ∧
      (∀ piece ∈ slyPieces, ¬ piece.Endless) ∧
      sly.expand slyTemplate =
        .ok (text "v$\x7b1\x7d$2$07get($\x7b1\x7d$2$, 7) of 7$\x7b1\x7d$2$") ∧
      sly.captured 1 <:+: slyRequest ∧ r.groups < 9 ∧ sly.captured 9 = [] := by
  have searched : ((Regex.read (text "get\\((.*?), ?(\\d)?(z)?\\)")).toOption.bind
      (·.search? slyRequest)) = some sly := by
    decide +kernel
  obtain ⟨r, read, searched⟩ := Option.bind_eq_some_iff.1 searched
  have finite : ∀ piece ∈ slyPieces, ¬ piece.Endless := by decide
  have few : r.groups < 9 := by
    rw [← (r.from_search? searched).groups]
    decide
  obtain ⟨filled, -, taken⟩ := expand_pieces sly written_sly
  exact ⟨r, read, searched, written_sly, finite, filled finite, (taken r _ searched 1).1, few,
    (taken r _ searched 9).2 few⟩

def nines : Text := List.replicate (mostDigits + 1) (.char '9')

theorem spells_nines (k : Nat) :
    Spells (List.replicate (k + 1) (.char '9')) (10 ^ (k + 1) - 1) := by
  induction k with
  | zero => decide
  | succ k ih =>
      have least : 1 ≤ 10 ^ (k + 1) := Nat.one_le_pow _ _ (by decide)
      have worth : 10 * (10 ^ (k + 1) - 1) + 9 = 10 ^ (k + 1 + 1) - 1 := by
        rw [Nat.pow_succ 10 (k + 1)]
        omega
      rw [List.replicate_succ', ← worth]
      exact ih.more (by decide)

def groupless : Match := ⟨text "a", []⟩

/-- A reference to a group that is not there stands for nothing, but by too many
digits it leaves the whole template unfilled. -/
theorem endless_unfilled :
    ∃ pieces, Written pieces (text "x$\x7b" ++ (nines ++ text "\x7dy")) ∧
      pieces.flatMap (Piece.filled groupless) = text "xy" ∧
      groupless.expand (text "x$\x7b" ++ (nines ++ text "\x7dy")) = .error .tooLong := by
  have spelled := spells_nines mostDigits
  have written : Written [.literal (text "x"), .reference nines _, .literal (text "y")]
      (text "x$\x7b" ++ (nines ++ text "\x7dy")) :=
    .literal (by decide) (.braced spelled (.literal (by decide) .nil))
  have alone : groupless.From 0 (text "a") := ⟨rfl, List.infix_rfl, by simp [groupless]⟩
  have given : 0 < 10 ^ (mostDigits + 1) - 1 :=
    Nat.sub_pos_of_lt (Nat.one_lt_pow (by decide) (by decide))
  refine ⟨_, written, ?_, expand_of_endless groupless written ⟨_, .tail _ (.head _), ?_⟩⟩
  · simp only [List.flatMap_cons, List.flatMap_nil, Piece.filled]
    rw [alone.captured_beyond given]
    rfl
  · show mostDigits < nines.length
    rw [nines, List.length_replicate]
    exact Nat.lt_succ_self mostDigits

end Template

end Breadboard
