import Breadboard.Text.Basic

/-! Quoting: a text between double quotes, with quotes, backslashes, controls and lone surrogates
written as escapes, so what is written is plain characters on one line. -/

namespace Breadboard.Quoted

def escape : CodePoint → Text
  | .lone offset => text "\\u" ++ Text.hex 4 (0xD800 + offset.val)
  | .char c =>
      if c = '\x22' then text "\\\""
      else if c = '\\' then text "\\\\"
      else if c = '\n' then text "\\n"
      else if c = '\r' then text "\\r"
      else if c = '\t' then text "\\t"
      else if c = '\x0c' then text "\\f"
      else if c = '\x08' then text "\\b"
      else if c.toNat < 0x20 then text "\\u" ++ Text.hex 4 c.toNat
      else [.char c]

def encode (s : Text) : Text := text "\"" ++ s.flatMap escape ++ text "\""

end Breadboard.Quoted
