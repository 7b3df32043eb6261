import Breadboard.Text.Blank
import Mathlib.Data.List.DropRight

/-! Trimming: what may stand around a text without a trace, and which texts are
left as they are. -/

namespace Breadboard

/-- No visible character of ASCII is a blank. -/
theorem CodePoint.isBlank_of_visible {c : CodePoint} (low : 0x20 < c.toNat)
    (high : c.toNat < 0x80) : c.isBlank = false := by
  rw [Bool.eq_false_iff]
  intro blank
  simp only [isBlank, Bool.or_eq_true, Bool.and_eq_true, decide_eq_true_eq,
    beq_iff_eq] at blank
  omega

namespace Text

def Void (s : Text) : Prop := ∀ c ∈ s, c.isBlank = true

structure Trimmed (s : Text) : Prop where
  head : ∀ c ∈ s.head?, c.isBlank = false
  last : ∀ c ∈ s.getLast?, c.isBlank = false

instance (s : Text) : Decidable (Void s) :=
  inferInstanceAs (Decidable (∀ c ∈ s, c.isBlank = true))

instance (s : Text) : Decidable (Trimmed s) :=
  decidable_of_iff ((∀ c ∈ s.head?, c.isBlank = false) ∧
      ∀ c ∈ s.getLast?, c.isBlank = false)
    ⟨fun ends => ⟨ends.1, ends.2⟩, fun trimmed => ⟨trimmed.head, trimmed.last⟩⟩

theorem trimEnd_eq_rdropWhile (s : Text) :
    s.trimEnd = s.rdropWhile CodePoint.isBlank := rfl

/-! Blanks around a text. -/

theorem trimStart_append_of_void {front : Text} (void : Void front) (s : Text) :
    trimStart (front ++ s) = trimStart s :=
  List.dropWhile_append_of_pos void

theorem trimEnd_append_of_void (s : Text) {back : Text} (void : Void back) :
    trimEnd (s ++ back) = trimEnd s := by
  have turned : ∀ c ∈ back.reverse, c.isBlank = true :=
    fun c member => void c (List.mem_reverse.1 member)
  rw [trimEnd, List.reverse_append, List.dropWhile_append_of_pos turned, trimEnd]

theorem trimStart_eq_nil_iff {s : Text} : s.trimStart = [] ↔ Void s :=
  List.dropWhile_eq_nil_iff

theorem trim_append_of_void_left {front : Text} (void : Void front)
    (s : Text) : trim (front ++ s) = trim s := by
  rw [trim, trimStart_append_of_void void, trim]

theorem trim_append_of_void_right (s : Text) {back : Text} (void : Void back) :
    trim (s ++ back) = trim s := by
  rw [trim, trim, trimStart, trimStart, List.dropWhile_append]
  split
  · next nothing =>
      have rest : s.dropWhile CodePoint.isBlank = [] := by simpa using nothing
      have more : trimStart back = [] := trimStart_eq_nil_iff.2 void
      rw [rest, show back.dropWhile CodePoint.isBlank = [] from more]
  · exact trimEnd_append_of_void _ void

theorem trim_eq_nil_iff {s : Text} : s.trim = [] ↔ Void s := by
  rw [trim, trimEnd_eq_rdropWhile, List.rdropWhile_eq_nil_iff]
  constructor
  · intro blank
    rw [← trimStart_eq_nil_iff]
    by_contra given
    have stays : (s.trimStart.head given).isBlank = false :=
      List.head_dropWhile_not CodePoint.isBlank given
    rw [blank _ (List.head_mem given)] at stays
    cases stays
  · intro void
    rw [trimStart_eq_nil_iff.2 void]
    exact fun c member => nomatch member

/-! Blanks at the end. -/

theorem trimEnd_append_of_not_void (s : Text) {back : Text}
    (given : ¬ Void back) : trimEnd (s ++ back) = s ++ trimEnd back := by
  have kept : back.reverse.dropWhile CodePoint.isBlank ≠ [] := by
    intro nothing
    apply given
    intro c member
    exact List.dropWhile_eq_nil_iff.1 nothing c (List.mem_reverse.2 member)
  rw [trimEnd, List.reverse_append, List.dropWhile_append,
    if_neg (by simpa using kept), List.reverse_append, List.reverse_reverse,
    trimEnd]

theorem void_rtakeWhile (s : Text) : Void (s.rtakeWhile CodePoint.isBlank) := by
  intro c member
  exact List.mem_takeWhile_imp (List.mem_reverse.1 member)

theorem trimEnd_append_rtakeWhile (s : Text) :
    s.trimEnd ++ s.rtakeWhile CodePoint.isBlank = s := by
  rw [trimEnd, List.rtakeWhile, ← List.reverse_append,
    List.takeWhile_append_dropWhile, List.reverse_reverse]

theorem trim_trimEnd (s : Text) : s.trimEnd.trim = s.trim := by
  conv_rhs => rw [← trimEnd_append_rtakeWhile s]
  exact (trim_append_of_void_right _ (void_rtakeWhile s)).symm

theorem trim_trimStart (s : Text) : s.trimStart.trim = s.trim := by
  rw [trim, trim, trimStart, trimStart, List.dropWhile_idempotent]

theorem trimEnd_leads (s : Text) : s.trimEnd <+: s := by
  rw [trimEnd_eq_rdropWhile]
  exact List.rdropWhile_prefix _ s

theorem trim_sublist (s : Text) : s.trim.Sublist s :=
  (trimEnd_leads _).sublist.trans (List.dropWhile_sublist _)

/-! Texts that are left as they are. -/

theorem Trimmed.trimStart {s : Text} (trimmed : Trimmed s) :
    s.trimStart = s := by
  rw [Text.trimStart]
  cases s with
  | nil => rfl
  | cons c s =>
      exact List.dropWhile_cons_of_neg (by simp [trimmed.head c rfl])

theorem Trimmed.trim {s : Text} (trimmed : Trimmed s) : s.trim = s := by
  rw [Text.trim, trimmed.trimStart, trimEnd_eq_rdropWhile,
    List.rdropWhile_eq_self_iff]
  intro given
  simp [trimmed.last _ (List.getLast?_eq_some_getLast given)]

theorem trimmed_trim (s : Text) : Trimmed s.trim where
  head c lead := by
    have start := List.head?_dropWhile_not CodePoint.isBlank s
    obtain ⟨rest, whole⟩ := trimEnd_leads s.trimStart
    have first : s.trimStart.head? = some c := by
      rw [← whole]
      exact List.mem_head?_append_of_mem_head? lead
    rw [trimStart] at first
    rw [first] at start
    simpa using start
  last c ending := by
    rw [Text.trim, trimEnd_eq_rdropWhile] at ending
    have given : s.trimStart.rdropWhile CodePoint.isBlank ≠ [] := by
      intro nothing
      rw [nothing] at ending
      cases ending
    have stays := List.rdropWhile_last_not CodePoint.isBlank _ given
    rw [List.getLast?_eq_some_getLast given] at ending
    cases ending
    simpa using stays

structure Solid (s : Text) : Prop extends Trimmed s where
  given : s ≠ []

instance (s : Text) : Decidable (Solid s) :=
  decidable_of_iff (Trimmed s ∧ s ≠ [])
    ⟨fun parts => ⟨parts.1, parts.2⟩, fun solid => ⟨solid.toTrimmed, solid.given⟩⟩

theorem solid_of_nonblank {s : Text} (given : s ≠ [])
    (nonblank : ∀ c ∈ s, c.isBlank = false) : Solid s where
  head c lead := nonblank c (List.mem_of_head? lead)
  last c ending := nonblank c (List.mem_of_getLast? ending)
  given := given

theorem Solid.not_void {s : Text} (solid : Solid s) : ¬ Void s := by
  intro void
  apply solid.given
  rw [← solid.trim, trim_eq_nil_iff]
  exact void

/-- What stands between two solid texts is not trimmed. -/
theorem Solid.around {a c : Text} (front : Solid a) (b : Text) (back : Solid c) :
    Solid (a ++ (b ++ c)) where
  head x lead := by
    rw [List.head?_append_of_ne_nil _ front.given] at lead
    exact front.head x lead
  last x ending := by
    rw [← List.append_assoc, List.getLast?_append_of_ne_nil _ back.given] at ending
    exact back.last x ending
  given nothing := front.given (List.append_eq_nil_iff.1 nothing).1

theorem Solid.trim_append {a : Text} (front : Solid a) (b : Text) :
    trim (a ++ b) = a ++ trimEnd b := by
  have start : Text.trimStart (a ++ b) = a ++ b := by
    obtain ⟨c, rest, rfl⟩ := List.exists_cons_of_ne_nil front.given
    exact List.dropWhile_cons_of_neg (by simp [front.head c rfl])
  rw [Text.trim, start]
  by_cases void : Void b
  · have nothing : trimEnd b = [] := by
      have := trimEnd_append_of_void [] void
      rwa [List.nil_append] at this
    rw [trimEnd_append_of_void a void, nothing, List.append_nil]
    have := front.trim
    rwa [Text.trim, front.trimStart] at this
  · exact trimEnd_append_of_not_void a void

end Text

end Breadboard
