/-! Numbers in the 64-bit binary format, as their bits. A finite number is m · 2^e for whole
m and e; every operation here is on m and e, so nothing depends on machine arithmetic. -/
namespace FolderWatch

structure Binary64 where
  bits : UInt64
  deriving DecidableEq, Repr, Inhabited

namespace Binary64

/-- What the bits stand for; `finite` has the value m · 2^e, with a sign of its own. -/
inductive Shape
  | nan
  | infinite (negative : Bool)
  | finite (negative : Bool) (m : Nat) (e : Int)
  deriving DecidableEq, Repr

def lead : Nat := 1 <<< 52

def negative (x : Binary64) : Bool := x.bits.toNat >>> 63 == 1
def exponentBits (x : Binary64) : Nat := (x.bits.toNat >>> 52) % 2048
def fractionBits (x : Binary64) : Nat := x.bits.toNat % lead

def shape (x : Binary64) : Shape :=
  if x.exponentBits = 2047 then
    if x.fractionBits = 0 then .infinite x.negative else .nan
  else if x.exponentBits = 0 then .finite x.negative x.fractionBits (-1074)
  else .finite x.negative (lead + x.fractionBits) (x.exponentBits - 1075)

def one : Binary64 := ⟨0x3FF0000000000000⟩
def infinity : Binary64 := ⟨0x7FF0000000000000⟩
def nan : Binary64 := ⟨0x7FF8000000000000⟩

def neg (x : Binary64) : Binary64 := ⟨x.bits ^^^ 0x8000000000000000⟩

/-- The whole number nearest to n / d, a half going to the even neighbour. -/
def roundHalfEven (n d : Nat) : Nat :=
  let q := n / d
  let r := 2 * (n % d)
  if r < d then q else if d < r then q + 1 else q + q % 2

/-- The format's number m · 2^e for m ≤ 2^53, infinity where e is too large. -/
def assemble (m : Nat) (e : Int) : Binary64 :=
  let (m, e) := if m = 2 * lead then (lead, e + 1) else (m, e)
  if m < lead then ⟨m.toUInt64⟩
  else if e > 971 then infinity
  else ⟨((e + 1075).toNat * lead + (m - lead)).toUInt64⟩

/-- Least e ≥ -1074 with n / d < 2^53 · 2^e, for n and d not zero. -/
def scaleOf (n d : Nat) : Int :=
  let l : Int := (n.log2 : Int) - d.log2
  let below := if 0 ≤ l then n < d <<< l.toNat else n <<< (-l).toNat < d
  max (if below then l - 53 else l - 52) (-1074)

def ofRatio (n d : Nat) : Binary64 :=
  if n = 0 || d = 0 then ⟨0⟩
  else
    let e := scaleOf n d
    if 0 ≤ e then assemble (roundHalfEven n (d <<< e.toNat)) e
    else assemble (roundHalfEven (n <<< (-e).toNat) d) e

def ofInt (n : Int) : Binary64 :=
  let x := ofRatio n.natAbs 1
  if n < 0 then x.neg else x

/-- The number nearest to digits · 10^exponent. Exponents past the format's reach in either
direction decide the answer before any power is computed. -/
def ofDecimal (digits : Nat) (exponent : Int) : Binary64 :=
  if digits = 0 then ⟨0⟩
  else if 400 < exponent then infinity
  else if exponent + (Nat.toDigits 10 digits).length < -400 then ⟨0⟩
  else if 0 ≤ exponent then ofRatio (digits * Nat.pow 10 exponent.toNat) 1
  else ofRatio digits (Nat.pow 10 (-exponent).toNat)

end Binary64
end FolderWatch
