/-! Why a text is not read as YAML. -/

namespace Breadboard.Yaml

inductive Fault where
  | malformed
  /-- Bytes that are no text. -/
  | notText
  /-- A number in a form that spells none or with too many digits, a day that is not in the
  calendar, or a code point that does not exist. -/
  | badNumber
  /-- Nothing where a number should be. -/
  | noNumber
  /-- A number too large for its kind. -/
  | tooLarge
  /-- A word that is neither true nor false. -/
  | badWord
  /-- A moment in a form that spells none. -/
  | badMoment
  /-- A table where the words of a moment should be. -/
  | noMoment
  /-- A value inside too many others, or inside itself. -/
  | tooDeep
  deriving DecidableEq, Repr

abbrev Reading (α : Type) := Except Fault α

end Breadboard.Yaml
