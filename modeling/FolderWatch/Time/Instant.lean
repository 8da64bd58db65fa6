import FolderWatch.Time.Duration
/-! Moments on the civil calendar in universal time, written as RFC 3339. -/
namespace FolderWatch

/-- Seconds since the start of 1970 and nanoseconds; 10^9 nanoseconds and more lie in the
leap second that follows. -/
structure Instant where
  seconds : Int
  nanos : Nat
  deriving DecidableEq, Repr

namespace Instant

structure Date where
  year : Int
  month : Nat
  day : Nat
  deriving DecidableEq, Repr

/- Years are counted from March, so that the leap day is the last day of its year. -/
def dateOfDay (day : Int) : Date :=
  let z := day + 719468
  let era := z.fdiv 146097
  let inEra := (z.fmod 146097).toNat
  let yearOfEra := (inEra - inEra / 1460 + inEra / 36524 - inEra / 146096) / 365
  let inYear := inEra - (365 * yearOfEra + yearOfEra / 4 - yearOfEra / 100)
  let shifted := (5 * inYear + 2) / 153
  let month := if shifted < 10 then shifted + 3 else shifted - 9
  ⟨yearOfEra + era * 400 + (if month ≤ 2 then 1 else 0), month,
    inYear - (153 * shifted + 2) / 5 + 1⟩

def padded (width n : Nat) : String :=
  let ds := Nat.toDigits 10 n
  String.ofList (List.replicate (width - ds.length) '0' ++ ds)

/-- Four digits; outside the years 0 to 9999 with a sign. -/
def yearText (y : Int) : String :=
  if 0 ≤ y && y ≤ 9999 then padded 4 y.toNat
  else (if y < 0 then "-" else "+") ++ padded 4 y.natAbs

/-- No fraction, or 3, 6 or 9 digits of one: the fewest that are exact. -/
def fractionText (nanos : Nat) : String :=
  if nanos = 0 then ""
  else if nanos % 1000000 = 0 then "." ++ padded 3 (nanos / 1000000)
  else if nanos % 1000 = 0 then "." ++ padded 6 (nanos / 1000)
  else "." ++ padded 9 nanos

def text (t : Instant) : String :=
  let date := dateOfDay (t.seconds.fdiv 86400)
  let inDay := (t.seconds.fmod 86400).toNat
  let leap := Duration.second ≤ t.nanos
  let second := inDay % 60 + (if leap then 1 else 0)
  let nanos := if leap then t.nanos - Duration.second else t.nanos
  yearText date.year ++ "-" ++ padded 2 date.month ++ "-" ++ padded 2 date.day ++ "T" ++
    padded 2 (inDay / 3600) ++ ":" ++ padded 2 (inDay / 60 % 60) ++ ":" ++ padded 2 second ++
    fractionText nanos ++ "Z"

end Instant
end FolderWatch
