import Breadboard.Text.Digit
import Breadboard.Text.Name.Ancient
import Breadboard.Text.Name.East
import Breadboard.Text.Name.Letters
import Breadboard.Text.Name.Notation
import Breadboard.Text.Name.Others
import Breadboard.Text.Name.Pictograms
import Breadboard.Text.Name.Pictures
import Breadboard.Text.Name.Signs
import Breadboard.Text.Name.Syllables
import Breadboard.Text.Name.Symbols
import Breadboard.Text.Ranges

/-! The code point of a name. Most names stand in tables; those of Hangul syllables and of unified
ideographs are made by rules.

A table gives one name after another, each for the code point after the last. A small letter begins
a name: `a` if none of its words are those of the name before, `b` if the first is, and so on. An
at sign and hexadecimal digits tell of another code point, and a number sign stands for the code
point's own number. -/

namespace Breadboard.Name

abbrev Word := List Char

def capitals (s : Text) : Word := s.map fun (c : CodePoint) => (Char.ofNat c.toNat).toUpper

structure Run where
  sought : List Word
  found : Option Nat := none
  /-- The code point of the name that comes next or is being read. -/
  code : Nat := 0
  /-- Whether digits belong to a code point. -/
  jumping : Bool := false
  reading : Bool := false
  /-- The words before the last one; between names all words of the last name. -/
  words : List Word := []
  word : Word := []

namespace Run

def close (r : Run) : Run :=
  if r.reading then
    let words := r.words ++ [r.word]
    { r with
      found := r.found <|> if words = r.sought then some r.code else none
      code := r.code + 1, reading := false, words, word := [] }
  else r

def hexDigit (c : Char) : Nat := if c.isDigit then c.toNat - 0x30 else c.toNat - 0x37

def number (n : Nat) : Word := capitals (Text.hex 4 n)

def step (r : Run) (c : Char) : Run :=
  if c = '\n' then r
  else if c = '@' then { r.close with jumping := true, code := 0 }
  else if c.isLower then
    let r := r.close
    { r with jumping := false, reading := true, words := r.words.take (c.toNat - 0x61) }
  else if r.jumping then { r with code := 16 * r.code + hexDigit c }
  else if c = ' ' then { r with words := r.words ++ [r.word], word := [] }
  else if c = '#' then { r with word := r.word ++ number r.code }
  else { r with word := r.word ++ [c] }

end Run

def findIn (table : String) (sought : List Word) : Option Nat :=
  (table.toList.foldl Run.step { sought }).close.found

def tables : List String :=
  [letters, syllables, signs, symbols, east, ancient, pictograms, notations, pictures, others]

def initials : List String :=
  ["G", "GG", "N", "D", "DD", "R", "M", "B", "BB", "S", "SS", "", "J", "JJ", "C", "K", "T", "P",
    "H"]

def vowels : List String :=
  ["A", "AE", "YA", "YAE", "EO", "E", "YEO", "YE", "O", "WA", "WAE", "OE", "YO", "U", "WEO", "WE",
    "WI", "YU", "EU", "YI", "I"]

def finals : List String :=
  ["", "G", "GG", "GS", "N", "NJ", "NH", "D", "L", "LG", "LM", "LB", "LS", "LT", "LP", "LH", "M",
    "B", "BS", "S", "SS", "NG", "J", "C", "K", "T", "P", "H"]

/-- The longest of some letters that a text begins with, by its place among them, and the rest. -/
def longest? (letters : List String) (s : Text) : Option (Nat × Text) :=
  letters.zipIdx.foldl (fun best (name, i) =>
    match (text name).dropLead? s, best with
    | some rest, some (_, old) => if rest.length < old.length then some (i, rest) else best
    | some rest, none => some (i, rest)
    | none, best => best) none

def syllable? (s : Text) : Option Nat := do
  let (initial, s) ← longest? initials s
  let (vowel, s) ← longest? vowels s
  let (final, s) ← longest? finals s
  if s.isEmpty then return 0xAC00 + (initial * vowels.length + vowel) * finals.length + final
  else none

def ideographs : Ranges := [(0x3400, 0x4DBF), (0x4E00, 0x9FFF), (0x20000, 0x2A6DF),
  (0x2A700, 0x2B738), (0x2B740, 0x2B81D), (0x2B820, 0x2CEA1), (0x2CEB0, 0x2EBE0),
  (0x30000, 0x3134A)]

def ideograph? (digits : Text) : Option Nat := do
  if digits.length ≠ 4 ∧ digits.length ≠ 5 then none
  let ds ← digits.mapM fun c =>
    if 0x61 ≤ c.toNat ∧ c.toNat ≤ 0x66 then none else c.hexDigit?
  let n := ds.foldl (fun n d => 16 * n + d) 0
  if ideographs.contains n then return n else none

/-- The code point of a name; except in the names made by rules, capitals and small letters are the
same. -/
def find? (name : Text) : Option CodePoint :=
  let n? :=
    match (text "HANGUL SYLLABLE ").dropLead? name with
    | some rest => syllable? rest
    | none =>
      match (text "CJK UNIFIED IDEOGRAPH-").dropLead? name with
      | some rest => ideograph? rest
      | none =>
        if name.all CodePoint.isAscii then
          let words := (Text.splitAt (.char ' ') name).map capitals
          tables.findSome? fun table => findIn table words
        else none
  n?.bind CodePoint.ofNat?

end Breadboard.Name
