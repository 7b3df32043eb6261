import Breadboard.Text.Basic

/-! Replacement in a text from left to right, in one pass: what is put in is not looked at again. -/

namespace Breadboard.Text

/-- What recognises a part at the start of a text, with its replacement, if it has one, and how
many code points it has, which are at least one. -/
abbrev Recogniser := Text → Option (Option Text × Nat)

/-- Puts something else in place of each part that is recognised. Where a part has no replacement,
nothing comes of the whole text. -/
def replaceBy? (at? : Recogniser) : Text → Option Text
  | [] => some []
  | c :: s =>
      match at? (c :: s) with
      | none => (replaceBy? at? s).map (c :: ·)
      | some (out, length) => do return (← out) ++ (← replaceBy? at? (s.drop (length - 1)))
termination_by s => s.length

end Breadboard.Text
