import FolderWatch.Number.Binary64
/-! Decimal text of numbers. A number is shown by the fewest digits that read back as the
same number; among texts of that length the nearest one is taken. -/
namespace FolderWatch

structure Decimal where
  digits : Nat
  exponent : Int
  deriving DecidableEq, Repr

namespace Decimal

def digitCount (n : Nat) : Nat := (Nat.toDigits 10 n).length

/-- The p with 10^(p-1) ≤ n / d < 10^p, for n and d not zero. -/
def magnitude (n d : Nat) : Int :=
  if d ≤ n then digitCount (n / d) else 1 - (digitCount ((d + n - 1) / n - 1) : Int)

def inUnits (n d : Nat) (k : Int) : Nat × Nat :=
  if 0 ≤ k then (n, d * Nat.pow 10 k.toNat) else (n * Nat.pow 10 (-k).toNat, d)

/-- The reals that read back as a number: its neighbourhood, in units of 1 / d. -/
structure Basin where
  low : Nat
  centre : Nat
  high : Nat
  d : Nat
  closed : Bool
  deriving DecidableEq, Repr

/- Below a power of two the next number is twice as near. -/
def Basin.of (m : Nat) (e : Int) : Basin :=
  let up := 1 <<< (e - 2).toNat
  let low := if m = Binary64.lead && -1074 < e then 4 * m - 1 else 4 * m - 2
  ⟨low * up, 4 * m * up, (4 * m + 2) * up, 1 <<< (2 - e).toNat, m % 2 == 0⟩

def Basin.holds (b : Basin) (c : Nat) (k : Int) : Bool :=
  let (low, d) := inUnits b.low b.d k
  let (high, _) := inUnits b.high b.d k
  if b.closed then low ≤ c * d && c * d ≤ high else low < c * d && c * d < high

def Basin.nearest? (b : Basin) (k : Int) : Option Nat :=
  let (n, d) := inUnits b.centre b.d k
  let c := n / d
  match b.holds c k, b.holds (c + 1) k with
  | true, true => some (if 2 * (n % d) < d then c else c + 1)
  | true, false => some c
  | false, true => some (c + 1)
  | false, false => none

def dropZeros : Nat → Decimal → Decimal
  | 0, x => x
  | fuel + 1, x =>
      if x.digits % 10 = 0 && x.digits ≠ 0 then dropZeros fuel ⟨x.digits / 10, x.exponent + 1⟩
      else x

/-- The shortest decimal of m · 2^e for m not zero; seventeen digits are always enough. -/
def shortest (m : Nat) (e : Int) : Decimal :=
  let b := Basin.of m e
  let p := magnitude b.centre b.d
  let hit := (List.range 17).findSome? fun (n : Nat) =>
    (b.nearest? (p - n - 1)).map fun c => (⟨c, p - n - 1⟩ : Decimal)
  dropZeros 18 (hit.getD ⟨0, 0⟩)

def zeros (n : Nat) : List Char := List.replicate n '0'

def positional (x : Decimal) : List Char :=
  let ds := Nat.toDigits 10 x.digits
  if 0 ≤ x.exponent then ds ++ zeros x.exponent.toNat
  else
    let places := (-x.exponent).toNat
    if places < ds.length then
      ds.take (ds.length - places) ++ '.' :: ds.drop (ds.length - places)
    else '0' :: '.' :: (zeros (places - ds.length) ++ ds)

def scientific (powerText : Int → List Char) (x : Decimal) : List Char :=
  let ds := Nat.toDigits 10 x.digits
  let power := x.exponent + (ds.length - 1 : Nat)
  ds.take 1 ++ (if ds.length = 1 then [] else '.' :: ds.drop 1) ++ 'e' :: powerText power

def barePower (power : Int) : List Char := (toString power).toList

def signedPower (power : Int) : List Char :=
  (if power < 0 then '-' else '+') :: Nat.toDigits 10 power.natAbs

/-- The value written as digits, at most one point and at most one exponent; a digit has to
stand before or after the point. -/
def ofText? (cs : List Char) : Option Decimal :=
  let whole := cs.takeWhile Char.isDigit
  let rest := cs.dropWhile Char.isDigit
  let (fraction, rest) := match rest with
    | '.' :: r => (r.takeWhile Char.isDigit, r.dropWhile Char.isDigit)
    | r => ([], r)
  let value (ds : List Char) : Nat := ds.foldl (fun n c => 10 * n + (c.toNat - 48)) 0
  let digits := value (whole ++ fraction)
  if whole.isEmpty && fraction.isEmpty then none
  else
    match rest with
    | [] => some ⟨digits, -(fraction.length : Int)⟩
    | e :: power =>
      if e = 'e' || e = 'E' then
        let (below, ds) := match power with
          | '-' :: r => (true, r)
          | '+' :: r => (false, r)
          | r => (false, r)
        if ds.isEmpty || !ds.all Char.isDigit then none
        else
          let n : Int := value ds
          some ⟨digits, (if below then -n else n) - fraction.length⟩
      else none

end Decimal

namespace Binary64

def sign (below : Bool) (cs : List Char) : List Char := if below then '-' :: cs else cs

def plain (m : Nat) (e : Int) : List Char :=
  if m = 0 then ['0'] else (Decimal.shortest m e).positional

/-- The plain text: never an exponent, no point for a whole number. -/
def text (x : Binary64) : String :=
  match x.shape with
  | .nan => "NaN"
  | .infinite below => String.ofList (sign below "inf".toList)
  | .finite below m e => String.ofList (sign below (plain m e))

def withPoint (cs : List Char) : List Char :=
  if cs.contains '.' then cs else cs ++ ['.', '0']

def pointText (x : Binary64) : String :=
  match x.shape with
  | .finite below m e => String.ofList (sign below (withPoint (plain m e)))
  | _ => x.text

/-- A fraction always shown from 10^(least - 1) up to 10^16, a power of ten outside. -/
def rangedText (least : Int) (powerText : Int → List Char) (x : Binary64) : String :=
  match x.shape with
  | .finite below m e =>
      let d := Decimal.shortest m e
      let power := d.exponent + Decimal.digitCount d.digits
      if m = 0 || (least ≤ power && power ≤ 16) then x.pointText
      else String.ofList (sign below (d.scientific powerText))
  | _ => x.text

def debugText (x : Binary64) : String := x.rangedText (-3) Decimal.barePower

def shortText (x : Binary64) : String := x.rangedText (-4) Decimal.signedPower

def word? (cs : List Char) : Option Binary64 :=
  let w := cs.map Char.toLower
  if w = "inf".toList || w = "infinity".toList then some infinity
  else if w = "nan".toList then some nan
  else none

def ofText? (s : List Char) : Option Binary64 :=
  let (below, cs) := match s with
    | '-' :: r => (true, r)
    | '+' :: r => (false, r)
    | r => (false, r)
  let x := (word? cs).or ((Decimal.ofText? cs).map fun d => ofDecimal d.digits d.exponent)
  x.map fun x => if below then x.neg else x

end Binary64
end FolderWatch
