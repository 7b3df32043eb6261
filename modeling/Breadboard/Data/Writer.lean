import Breadboard.Data.Value
import Breadboard.Text.Quoted

/-! Values written as text, on one line or spread over lines with an indent of two. The scalars are
written in the way of a format. -/

namespace Breadboard

structure ScalarStyle where
  float : FloatStyle
  quote : Text → Text

namespace ScalarStyle

def scalar (style : ScalarStyle) : Value → Text
  | .null => text "null"
  | .bool b => text (if b then "true" else "false")
  | .int i => Text.ofInt i
  | .float x => style.float.write x
  | .text s => style.quote s
  | .list _ => text "[]"
  | .table _ => text "\x7b\x7d"
  | v => style.quote v.toText

def newline (depth : Nat) : Text := .char '\n' :: List.replicate (2 * depth) (.char ' ')

mutual
def compact (style : ScalarStyle) : Value → Text
  | .list items => text "[" ++ compactItems style items ++ text "]"
  | .table entries => text "\x7b" ++ compactEntries style entries ++ text "\x7d"
  | v => style.scalar v

def compactItems (style : ScalarStyle) : List Value → Text
  | [] => []
  | [v] => compact style v
  | v :: w :: rest => compact style v ++ text ", " ++ compactItems style (w :: rest)

def compactEntries (style : ScalarStyle) : List (Text × Value) → Text
  | [] => []
  | [(key, v)] => style.quote key ++ text ": " ++ compact style v
  | (key, v) :: e :: rest =>
      style.quote key ++ text ": " ++ compact style v ++ text ", " ++
        compactEntries style (e :: rest)
end

mutual
/-- An item or entry a line, two spaces deeper than what holds it. -/
def spread (style : ScalarStyle) (depth : Nat) : Value → Text
  | .list (v :: rest) =>
      text "[" ++ spreadItems style (depth + 1) (v :: rest) ++ newline depth ++ text "]"
  | .table (e :: rest) =>
      text "\x7b" ++ spreadEntries style (depth + 1) (e :: rest) ++ newline depth ++ text "\x7d"
  | v => style.scalar v

def spreadItems (style : ScalarStyle) (depth : Nat) : List Value → Text
  | [] => []
  | [v] => newline depth ++ spread style depth v
  | v :: w :: rest =>
      newline depth ++ spread style depth v ++ text "," ++ spreadItems style depth (w :: rest)

def spreadEntries (style : ScalarStyle) (depth : Nat) : List (Text × Value) → Text
  | [] => []
  | [(key, v)] => newline depth ++ style.quote key ++ text ": " ++ spread style depth v
  | (key, v) :: e :: rest =>
      newline depth ++ style.quote key ++ text ": " ++ spread style depth v ++ text "," ++
        spreadEntries style depth (e :: rest)
end

def file (style : ScalarStyle) (v : Value) : Text := spread style 0 v ++ text "\n"

end ScalarStyle

end Breadboard
