import Breadboard.Data.Yaml.Fault
import Breadboard.Text.Utf8

/-! The text of a YAML file, as far as it can be read. A file is read block by block while its
tokens are wanted, and its bytes are decoded in pieces that are larger than a block; a fault is met
where the block begins in which it is found. -/

namespace Breadboard.Yaml

structure Source where
  text : Text
  /-- What is met behind the text, if it is not the end. -/
  fault : Option Fault := none

def isAllowed (c : CodePoint) : Bool :=
  let n := c.toNat
  !c.isLone && (n == 0x09 || n == 0x0A || n == 0x0D || 0x20 ≤ n && n ≤ 0x7E || n == 0x85 ||
    0xA0 ≤ n && n ≤ 0xFFFD || 0x10000 ≤ n)

structure Decoder where
  bytes : Bytes
  reader : Utf8.Reader := none
  /-- Whether a carriage return waits for what follows it. -/
  hasReturn : Bool := false
  /-- What is decoded and was not taken. -/
  ready : Text := []
  /-- How many bytes a code point took in the last piece. -/
  ratio : Float := 0.0
  ended : Bool := false

namespace Decoder

def leastPiece : Nat := 8192

/-- How many bytes are decoded where this many code points are wanted. -/
def pieceSize (d : Decoder) (wanted : Nat) : Nat :=
  let ratio := if d.ratio < 1.0 then 1.0 else d.ratio
  max leastPiece (ratio * Float.ofNat wanted).toUInt64.toNat

/-- Decodes the next piece; behind the last byte there is an empty one. -/
def decode (wanted : Nat) (d : Decoder) : Reading Decoder := do
  let size := d.pieceSize wanted
  let piece := d.bytes.take size
  let ended := piece.isEmpty
  let (found, reader) := Utf8.run d.reader piece
  let found := if ended then found ++ Utf8.finish reader else found
  let points : Text ← found.mapM fun
    | .char c => .ok (.char c)
    | .stray _ => .error .notText
  let points := if d.hasReturn then .char '\r' :: points else points
  let hasReturn := !ended && points.getLast? = some (.char '\r')
  let ready := Text.unifyLines (if hasReturn then points.dropLast else points)
  return {
    bytes := d.bytes.drop size
    reader, hasReturn
    ready := d.ready ++ ready
    ratio :=
      if ready.isEmpty then 0.0 else Float.ofNat piece.length / Float.ofNat ready.length
    ended := ended && ready.isEmpty }

def take (size : Nat) : (pieces : Nat) → Decoder → Reading (Text × Decoder)
  | 0, d => .ok (d.ready.take size, { d with ready := d.ready.drop size })
  | pieces + 1, d =>
      if size ≤ d.ready.length || d.ended then
        .ok (d.ready.take size, { d with ready := d.ready.drop size })
      else do take size pieces (← d.decode (size - d.ready.length))

end Decoder

namespace Source

def blockSize : Nat := 4096

def block (d : Decoder) : Reading (Text × Decoder) := do
  let (s, d) ← d.take blockSize (d.bytes.length + 2)
  if s.all isAllowed then return (s, d) else throw .malformed

/-- The text up to the first block with a fault. -/
def blocks : (fuel : Nat) → Decoder → Source
  | 0, _ => { text := [] }
  | fuel + 1, d =>
      match block d with
      | .error fault => { text := [], fault := some fault }
      | .ok ([], _) => { text := [] }
      | .ok (s, d) => let rest := blocks fuel d; { rest with text := s ++ rest.text }

/-- The text in bytes. The first two blocks are read at once. -/
def ofBytes (bytes : Bytes) : Source :=
  let fuel := bytes.length + 2
  let first : Reading (Text × Decoder) := do
    let (s, d) ← Decoder.take blockSize fuel { bytes }
    let (t, d) ← d.take blockSize fuel
    if (s ++ t).all isAllowed then return (s ++ t, d) else throw .malformed
  match first with
  | .error fault => { text := [], fault := some fault }
  | .ok (s, d) => let rest := blocks fuel d; { rest with text := s ++ rest.text }

end Source

end Breadboard.Yaml
