import Breadboard.Text.Basic

/-! Blanks: the white space of every script, with the four information separators. Texts are
trimmed of them, and arguments may be surrounded by them. -/

namespace Breadboard

def CodePoint.isBlank (c : CodePoint) : Bool :=
  let n := c.toNat
  0x09 ≤ n && n ≤ 0x0D || 0x1C ≤ n && n ≤ 0x20 || n == 0x85 || n == 0xA0 || n == 0x1680 ||
    0x2000 ≤ n && n ≤ 0x200A || n == 0x2028 || n == 0x2029 || n == 0x202F || n == 0x205F ||
    n == 0x3000

namespace Text

def trimStart (s : Text) : Text := s.dropWhile CodePoint.isBlank

def trimEnd (s : Text) : Text := (s.reverse.dropWhile CodePoint.isBlank).reverse

def trim (s : Text) : Text := s.trimStart.trimEnd

def isBlank (s : Text) : Bool := s.all CodePoint.isBlank

end Text

end Breadboard
