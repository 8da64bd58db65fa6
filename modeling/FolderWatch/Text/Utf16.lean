/-! Text in 16-bit units. A unit that is half of no pair reads as U+FFFD, one character for
one unit, so nothing before or after it moves. -/
namespace FolderWatch.Utf16

def replacement : Char := '\uFFFD'

def isHigh (u : UInt16) : Bool := 0xD800 ≤ u && u ≤ 0xDBFF
def isLow (u : UInt16) : Bool := 0xDC00 ≤ u && u ≤ 0xDFFF

def pair (high low : UInt16) : Char :=
  Char.ofNat (0x10000 + (high.toNat - 0xD800) * 0x400 + (low.toNat - 0xDC00))

def single (u : UInt16) : Char :=
  if isHigh u || isLow u then replacement else Char.ofNat u.toNat

def encodeChar (c : Char) : List UInt16 :=
  if c.toNat < 0x10000 then [c.toNat.toUInt16]
  else
    [(0xD800 + (c.toNat - 0x10000) / 0x400).toUInt16,
     (0xDC00 + (c.toNat - 0x10000) % 0x400).toUInt16]

def encode (cs : List Char) : List UInt16 := cs.flatMap encodeChar

def decode : List UInt16 → List Char
  | [] => []
  | [u] => [single u]
  | u :: v :: rest =>
      if isHigh u && isLow v then pair u v :: decode rest
      else single u :: decode (v :: rest)

end FolderWatch.Utf16
