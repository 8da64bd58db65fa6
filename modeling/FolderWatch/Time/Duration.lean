import FolderWatch.Number.Binary64
/-! Spans of time in whole nanoseconds. -/
namespace FolderWatch

structure Duration where
  seconds : Nat
  nanos : Nat
  deriving DecidableEq, Repr

namespace Duration

def second : Nat := 1000000000

def ofNanos (n : Nat) : Duration := ⟨n / second, n % second⟩

/-- The nanoseconds nearest to m · 2^e seconds, a half going to the even neighbour. -/
def nearestNanos (m : Nat) (e : Int) : Nat :=
  if 0 ≤ e then (m <<< e.toNat) * second
  else Binary64.roundHalfEven (m * second) (1 <<< (-e).toNat)

/-- Seconds as a span; none for negative numbers and for what needs more than 64 bits of
seconds. -/
def ofSeconds? (x : Binary64) : Option Duration :=
  match x.shape with
  | .finite below m e =>
      let n := nearestNanos m e
      if (below && m ≠ 0) || UInt64.size * second ≤ n then none else some (ofNanos n)
  | _ => none

def fraction (n width : Nat) : List Char :=
  let ds := Nat.toDigits 10 n
  let padded := List.replicate (width - ds.length) '0' ++ ds
  let kept := (padded.reverse.dropWhile (· = '0')).reverse
  if kept.isEmpty then [] else '.' :: kept

/-- In the largest unit that leaves a whole part, `0ns` for nothing at all. -/
def text (d : Duration) : String :=
  let shown (whole part width : Nat) (unit : String) :=
    toString whole ++ String.ofList (fraction part width) ++ unit
  if 0 < d.seconds then shown d.seconds d.nanos 9 "s"
  else if 1000000 ≤ d.nanos then shown (d.nanos / 1000000) (d.nanos % 1000000) 6 "ms"
  else if 1000 ≤ d.nanos then shown (d.nanos / 1000) (d.nanos % 1000) 3 "µs"
  else shown d.nanos 0 0 "ns"

end Duration
end FolderWatch
