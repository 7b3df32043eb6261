import Breadboard.Text.Printable
import Breadboard.Text.Utf8

/-! Texts and bytes as messages show them: between quotes, with escapes for what cannot be
printed. -/

namespace Breadboard.Text

def numericEscape (c : CodePoint) : Text :=
  let n := c.toNat
  if n < 0x100 then text "\\x" ++ hex 2 n
  else if n < 0x10000 then text "\\u" ++ hex 4 n
  else text "\\U" ++ hex 8 n

def displayPoint (quote c : CodePoint) : Text :=
  if c = quote ∨ c = .char '\\' then [.char '\\', c]
  else if c = .char '\t' then text "\\t"
  else if c = .char '\n' then text "\\n"
  else if c = .char '\r' then text "\\r"
  else if c.isPrintable then [c]
  else numericEscape c

/-- The quote around a text: a single one, or a double one if it holds single ones only. -/
def quoteFor (s : Text) : CodePoint :=
  if s.elem (.char '\x27') && !s.elem (.char '\x22') then .char '\x22' else .char '\x27'

def display (s : Text) : Text :=
  let quote := quoteFor s
  quote :: s.flatMap (displayPoint quote) ++ [quote]

def displayBytes (data : Bytes) : Text :=
  let s : Text := data.map fun b => .char (.ofNat b.toNat)
  let quote := quoteFor s
  let point (c : CodePoint) : Text :=
    if c.isAscii then displayPoint quote c else numericEscape c
  .char 'b' :: quote :: s.flatMap point ++ [quote]

end Breadboard.Text
