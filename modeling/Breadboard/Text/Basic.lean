/-! Text as a list of code points. A code point is a character or a lone surrogate, so bytes that
are not UTF-8 can travel through text and come out unchanged. -/

namespace Breadboard

/-- A code point: a character, or the surrogate `0xD800 + offset` standing by itself. -/
inductive CodePoint where
  | char (c : Char)
  | lone (offset : Fin 0x800)
  deriving DecidableEq, Inhabited, Repr

namespace CodePoint

instance : Coe Char CodePoint := ⟨.char⟩

def toNat : CodePoint → Nat
  | .char c => c.toNat
  | .lone offset => 0xD800 + offset.val

/-- The code point with a given number; there is none past `0x10FFFF`. -/
def ofNat? (n : Nat) : Option CodePoint :=
  if h : n.isValidChar then some (.char (.ofNatAux n h))
  else if h : 0xD800 ≤ n ∧ n < 0xE000 then some (.lone ⟨n - 0xD800, by omega⟩)
  else none

def isLone : CodePoint → Bool
  | .char _ => false
  | .lone _ => true

def isAscii (c : CodePoint) : Bool := c.toNat < 0x80

end CodePoint

abbrev Text := List CodePoint

def text (s : String) : Text := s.toList.map .char

namespace Text

def ofNat (n : Nat) : Text := (Nat.toDigits 10 n).map .char

def ofInt : Int → Text
  | .ofNat n => ofNat n
  | .negSucc n => .char '-' :: ofNat (n + 1)

def hex (width n : Nat) : Text :=
  let digits := Nat.toDigits 16 n
  (List.replicate (width - digits.length) '0' ++ digits).map .char

def dropLead? : (lead : Text) → Text → Option Text
  | [], s => some s
  | _ :: _, [] => none
  | c :: lead, d :: s => if c = d then dropLead? lead s else none

def startsWith (s lead : Text) : Bool := (dropLead? lead s).isSome

def endsWith (s tail : Text) : Bool := startsWith s.reverse tail.reverse

def cut? (mark : Text) : Text → Option (Text × Text)
  | [] => (dropLead? mark []).map ([], ·)
  | c :: s =>
      match dropLead? mark (c :: s) with
      | some rest => some ([], rest)
      | none => (cut? mark s).map fun (before, after) => (c :: before, after)

def contains (s part : Text) : Bool := (cut? part s).isSome

def splitAt (mark : CodePoint) : Text → List Text
  | [] => [[]]
  | c :: s =>
      if c = mark then [] :: splitAt mark s
      else match splitAt mark s with
        | [] => [[c]]
        | line :: lines => (c :: line) :: lines

def joinWith (sep : Text) : List Text → Text
  | [] => []
  | [s] => s
  | s :: rest => s ++ sep ++ joinWith sep rest

/-- Carriage returns, alone or before a line feed, are line feeds. -/
def unifyLines : Text → Text
  | .char '\r' :: .char '\n' :: s => .char '\n' :: unifyLines s
  | .char '\r' :: s => .char '\n' :: unifyLines s
  | c :: s => c :: unifyLines s
  | [] => []

theorem dropLead?_eq_some_iff {lead s rest : Text} :
    dropLead? lead s = some rest ↔ s = lead ++ rest := by
  induction lead generalizing s with
  | nil => simp [dropLead?, eq_comm]
  | cons c lead ih =>
      cases s with
      | nil => simp [dropLead?]
      | cons d s =>
          by_cases h : c = d
          · simp [dropLead?, h, ih]
          · simp [dropLead?, h]
            intro hd
            exact absurd hd.symm h

theorem dropLead?_append (lead rest : Text) :
    dropLead? lead (lead ++ rest) = some rest :=
  dropLead?_eq_some_iff.2 rfl

theorem eq_append_of_cut? {mark s before after : Text}
    (h : cut? mark s = some (before, after)) : s = before ++ mark ++ after := by
  induction s generalizing before with
  | nil =>
      simp only [cut?, Option.map_eq_some_iff] at h
      obtain ⟨rest, hr, he⟩ := h
      cases he
      simpa using dropLead?_eq_some_iff.1 hr
  | cons c s ih =>
      simp only [cut?] at h
      split at h
      · next rest hr =>
          cases h
          simpa using dropLead?_eq_some_iff.1 hr
      · simp only [Option.map_eq_some_iff] at h
        obtain ⟨⟨b, a⟩, hb, he⟩ := h
        cases he
        simp [ih hb]

end Text

end Breadboard
