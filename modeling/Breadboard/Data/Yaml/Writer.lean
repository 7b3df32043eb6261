import Breadboard.Data.Writer
import Breadboard.Data.Yaml.Token

/-! YAML written from values, with all texts between quotes: single ones where a text goes over
several lines as it is, double ones with escapes where it does not. -/

namespace Breadboard.Yaml

def isSpecial (c : CodePoint) : Bool :=
  !isAllowed c || c = .char '\t' || c = .char '\r' || c.toNat == 0xFEFF || c.toNat == 0x10FFFF

def hasLooseSpace : Text → Bool
  | a :: b :: s =>
      isBreak a && b = .char ' ' || a = .char ' ' && isBreak b || hasLooseSpace (b :: s)
  | _ => false

def spansLines (s : Text) : Bool := s.any isBreak && !s.any isSpecial && !hasLooseSpace s

/-- A text over several lines. Where breaks begin with a line feed there is one more, because a
reader drops the first; other breaks stand as they are. -/
def spread (afterBreak : Bool) : Text → Text
  | [] => []
  | c :: s =>
      let written : Text :=
        if isBreak c then
          (if c = .char '\n' && !afterBreak then [c, c] else [c]) ++
            (if s.head?.any isBreak then [] else [.char ' '])
        else if c = .char '\x27' then [c, c]
        else [c]
      written ++ spread (isBreak c) s

/-- The form of one code point between double quotes; what may not stand in YAML is written by its
number. -/
def escape (c : CodePoint) : Text :=
  if isBreak c || !isAllowed c then text "\\U" ++ Text.hex 8 c.toNat else Quoted.escape c

def quote (s : Text) : Text :=
  if spansLines s then text "'" ++ spread false s ++ text "'"
  else text "\"" ++ s.flatMap escape ++ text "\""

def style : ScalarStyle where
  float := { plainFloat with nan := ".nan", infinity := ".inf", single := ".0" }
  quote := quote

def file (v : Value) : Text := style.file v

end Breadboard.Yaml
