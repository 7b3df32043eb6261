import Breadboard.Data.Writer

/-! JSON written from values. -/

namespace Breadboard.Json

/-- A text between quotes; lone surrogates stand as they are. -/
def quote (s : Text) : Text :=
  text "\"" ++ s.flatMap (fun c => if c.isLone then [c] else Quoted.escape c) ++ text "\""

def style : ScalarStyle where
  float := { plainFloat with nan := "NaN", infinity := "Infinity" }
  quote := quote

def compact (v : Value) : Text := style.compact v

def file (v : Value) : Text := style.file v

end Breadboard.Json
