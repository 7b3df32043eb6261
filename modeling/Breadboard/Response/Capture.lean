import Breadboard.Pattern.Search

/-! Captures in a response: `$n` and `${n}` stand for what a group of the request's match took. -/

namespace Breadboard

/-- A part of a template: a code point, or a reference to a group by the digits of its number. -/
inductive TemplatePart where
  | point (c : CodePoint)
  | reference (digits : List Nat)
  deriving DecidableEq

namespace TemplatePart

def reference? (s : Text) : Option (List Nat × Text) :=
  match s with
  | .char '\x7b' :: s =>
      match spanDigits s with
      | ([], _) => none
      | (digits, .char '\x7d' :: rest) => some (digits, rest)
      | _ => none
  | s =>
      match spanDigits s with
      | ([], _) => none
      | (d :: digits, rest) => some (d :: digits, rest)

theorem reference?_length {s rest : Text} {digits : List Nat}
    (h : reference? s = some (digits, rest)) : rest.length ≤ s.length := by
  unfold reference? at h
  split at h
  · next t =>
      have := spanDigits_length t
      split at h <;> simp_all
      omega
  · have := spanDigits_length s
    split at h <;> simp_all

def all : Text → List TemplatePart
  | [] => []
  | c :: s =>
      if c = .char '$' then
        match h : reference? s with
        | some (digits, rest) =>
            have : rest.length ≤ s.length := reference?_length h
            .reference digits :: all rest
        | none => .point c :: all s
      else .point c :: all s
termination_by s => s.length

/-- What a part stands for. A group that took no part, or is not there, stands for nothing. -/
def fill (m : Match) : TemplatePart → Except IntegerFault Text
  | .point c => .ok [c]
  | .reference digits => (ofDigits? digits).map fun n => (m.group? n).getD []

end TemplatePart

/-- The template with the groups of a match put in; what is put in is not expanded again. -/
def Match.expand (m : Match) (template : Text) : Except IntegerFault Text :=
  ((TemplatePart.all template).mapM (TemplatePart.fill m)).map List.flatten

end Breadboard
