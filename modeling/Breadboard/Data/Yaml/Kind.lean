import Breadboard.Data.Yaml.Timestamp
import Breadboard.Number.Numeral

/-! The kinds of YAML nodes, told by a tag or by the form of a plain scalar. -/

namespace Breadboard.Yaml

inductive Kind where
  | null
  | bool
  | int
  | float
  | moment
  | text
  | bytes
  | list
  | table
  | set
  | pairs
  /-- A key of what is merged into a table. -/
  | merge
  /-- A key of what stands for a table where a scalar is wanted. -/
  | default
  | unknown
  deriving DecidableEq, Repr

namespace Kind

def lead : Text := Breadboard.text "tag:yaml.org,2002:"

def names : List (String × Kind) := [
  ("null", .null), ("bool", .bool), ("int", .int), ("float", .float), ("timestamp", .moment),
  ("str", .text), ("binary", .bytes), ("seq", .list), ("map", .table), ("set", .set),
  ("omap", .pairs), ("pairs", .pairs), ("merge", .merge), ("value", .default)]

def ofTag (tag : Text) : Kind :=
  match Text.dropLead? lead tag with
  | some name => ((names.find? fun (n, _) => Breadboard.text n = name).map (·.2)).getD .unknown
  | none => .unknown

def openTag : Text := Breadboard.text "!"

def words (kind : Kind) : List String :=
  match kind with
  | .null => ["", "~", "null", "Null", "NULL"]
  | .bool => ["yes", "Yes", "YES", "no", "No", "NO", "true", "True", "TRUE", "false", "False",
      "FALSE", "on", "On", "ON", "off", "Off", "OFF"]
  | .merge => ["<<"]
  | .default => ["="]
  | .unknown => ["!", "&", "*"]
  | _ => []

def isWordOf (kind : Kind) (s : Text) : Bool := kind.words.any fun w => Breadboard.text w = s

def isDigit (c : CodePoint) : Bool := c.asciiDigit?.isSome

def isDigitOr (c : CodePoint) : Bool := isDigit c || c = .char '_'

def dropSign (s : Text) : Text := (Numeral.takeSign s).2

/-- Digits of a base, perhaps with underscores between and around them; at least one of either. -/
def allDigits (isDigit : CodePoint → Bool) (s : Text) : Bool :=
  !s.isEmpty && s.all fun c => isDigit c || c = .char '_'

def isSixtieth (s : Text) : Bool :=
  match s.map CodePoint.asciiDigit? with
  | [some _] => true
  | [some a, some _] => a < 6
  | _ => false

/-- Parts between colons: digits, then sixtieths. -/
def isSexagesimal (s : Text) : Bool :=
  match Text.splitAt (.char ':') s with
  | first :: part :: parts =>
      first.head?.any isDigit && first.all isDigitOr && (part :: parts).all isSixtieth
  | _ => false

def isExponent (s : Text) : Bool :=
  match s with
  | [] => true
  | e :: sign :: digits =>
      (e = .char 'e' || e = .char 'E') && (sign = .char '-' || sign = .char '+') &&
        !digits.isEmpty && digits.all isDigit
  | _ => false

def isInt (s : Text) : Bool :=
  let s := dropSign s
  match s with
  | .char '0' :: .char 'b' :: r => allDigits (fun c => c.asciiDigit?.any (· < 2)) r
  | .char '0' :: .char 'x' :: r => allDigits (·.hexDigit?.isSome) r
  | [.char '0'] => true
  | .char '0' :: r => allDigits (fun c => c.asciiDigit?.any (· < 8)) r
  | c :: r => isDigit c && (r.all isDigitOr || isSexagesimal (c :: r))
  | [] => false

def isPointed (signed : Bool) (s : Text) : Bool :=
  let (whole, rest) := s.span isDigitOr
  match rest with
  | .char '.' :: r =>
      let (places, r) := r.span isDigitOr
      if whole.isEmpty then !signed && places.head?.any isDigit && isExponent r
      else whole.head?.any isDigit && isExponent r
  | _ => false

def isFloat (s : Text) : Bool :=
  let (signed, r) : Bool × Text :=
    match s with
    | .char '-' :: r => (true, r)
    | .char '+' :: r => (true, r)
    | r => (false, r)
  let sixtieths :=
    match Text.cut? (Breadboard.text ".") r with
    | some (whole, places) => isSexagesimal whole && places.all isDigitOr
    | none => false
  isPointed signed r || sixtieths ||
    [".inf", ".Inf", ".INF"].any (fun w => Breadboard.text w = r) ||
    [".nan", ".NaN", ".NAN"].any fun w => Breadboard.text w = s

def dropBreak (s : Text) : Text := if s.getLast? = some (.char '\n') then s.dropLast else s

/-- The kind of a plain scalar. A line feed at its end does not count. -/
def ofForm (s : Text) : Kind :=
  if s = [.char '\n'] then .text
  else
    let s := dropBreak s
    if isWordOf .bool s then .bool
    else if isFloat s then .float
    else if isInt s then .int
    else if isWordOf .merge s then .merge
    else if isWordOf .null s then .null
    else if Timestamp.isPlain s then .moment
    else if isWordOf .default s then .default
    else if isWordOf .unknown s then .unknown
    else .text

/-- The kind of a scalar. One without a tag is text if it is not plain. -/
def ofScalar (tag : Option Text) (plain : Bool) (s : Text) : Kind :=
  match tag with
  | none => if plain then ofForm s else .text
  | some t => if t = openTag then ofForm s else ofTag t

def ofGroup (tag : Option Text) (usual : Kind) : Kind :=
  match tag with
  | none => usual
  | some t => if t = openTag then usual else ofTag t

end Kind

end Breadboard.Yaml
