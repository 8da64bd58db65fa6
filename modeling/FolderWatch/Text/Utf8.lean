/-! Text in bytes. A reader walks the bytes once; where no character can be completed, the
bytes read towards it count as one damaged place. Lossy reading writes U+FFFD there, strict
reading gives up. -/
namespace FolderWatch.Utf8

/-- A character begun: bytes still wanted, the range of the next one, the bits so far. -/
structure Begun where
  wanted : Nat
  low : UInt8
  high : UInt8
  bits : Nat
  deriving DecidableEq, Repr

inductive Lead
  | whole (c : Char)
  | begun (b : Begun)
  | damaged
  deriving DecidableEq, Repr

/- The narrowed second bytes shut out overlong forms, surrogates and values past U+10FFFF. -/
def lead (b : UInt8) : Lead :=
  if b < 0x80 then .whole (Char.ofNat b.toNat)
  else if b < 0xC2 then .damaged
  else if b < 0xE0 then .begun ⟨1, 0x80, 0xBF, b.toNat - 0xC0⟩
  else if b = 0xE0 then .begun ⟨2, 0xA0, 0xBF, 0⟩
  else if b = 0xED then .begun ⟨2, 0x80, 0x9F, 0xD⟩
  else if b < 0xF0 then .begun ⟨2, 0x80, 0xBF, b.toNat - 0xE0⟩
  else if b = 0xF0 then .begun ⟨3, 0x90, 0xBF, 0⟩
  else if b < 0xF4 then .begun ⟨3, 0x80, 0xBF, b.toNat - 0xF0⟩
  else if b = 0xF4 then .begun ⟨3, 0x80, 0x8F, 4⟩
  else .damaged

def Begun.next (s : Begun) (b : UInt8) : Lead :=
  let bits := s.bits * 64 + (b.toNat - 0x80)
  if s.wanted ≤ 1 then .whole (Char.ofNat bits) else .begun ⟨s.wanted - 1, 0x80, 0xBF, bits⟩

def pieces : Option Begun → List UInt8 → List (Option Char)
  | none, [] => []
  | some _, [] => [none]
  | none, b :: bs =>
      match lead b with
      | .whole c => some c :: pieces none bs
      | .begun s => pieces (some s) bs
      | .damaged => none :: pieces none bs
  | some s, b :: bs =>
      if s.low ≤ b && b ≤ s.high then
        match s.next b with
        | .whole c => some c :: pieces none bs
        | .begun s => pieces (some s) bs
        | .damaged => none :: pieces none bs
      else
        none :: match lead b with
          | .whole c => some c :: pieces none bs
          | .begun s => pieces (some s) bs
          | .damaged => none :: pieces none bs

def decodeLossy (bytes : List UInt8) : List Char :=
  (pieces none bytes).map (·.getD '\uFFFD')

def decode? (bytes : List UInt8) : Option (List Char) :=
  (pieces none bytes).mapM id

def encode (cs : List Char) : List UInt8 := cs.flatMap String.utf8EncodeChar

def ofString (s : String) : List UInt8 := encode s.toList

def toStringLossy (bytes : List UInt8) : String := String.ofList (decodeLossy bytes)

end FolderWatch.Utf8
