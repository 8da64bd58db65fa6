import FolderWatch.Number.Binary64
import Mathlib.Algebra.Order.Field.Power
import Mathlib.Algebra.Order.Field.Rat
import Mathlib.Tactic.FieldSimp
import Mathlib.Tactic.Linarith
import Mathlib.Tactic.NormNum
import Mathlib.Tactic.Positivity
import Mathlib.Tactic.Ring

/-! The numbers that the 64-bit format stands for, as fractions, and how far a rounded quotient lies
from the exact one. -/
namespace FolderWatch.Binary64

/-- The number in the bits: a sign, eleven bits of an exponent and fifty-two of a fraction, which
has a one in front unless the exponent is the least. An exponent of ones only is no number's. -/
def value? (x : Binary64) : Option ℚ :=
  let bits := x.bits.toNat
  let exponent : Nat := bits / 2 ^ 52 % 2048
  let fraction : ℚ := (bits % 2 ^ 52 : Nat) / 2 ^ 52
  let size : ℚ :=
    if exponent = 0 then fraction * 2 ^ (-1022 : Int)
    else (1 + fraction) * 2 ^ ((exponent : Int) - 1023)
  if exponent = 2047 then none
  else some (if bits / 2 ^ 63 = 0 then size else -size)

def Shape.value? : Shape → Option ℚ
  | .finite below m e => some (if below then -(m * 2 ^ e) else m * 2 ^ e)
  | _ => none

variable {x : Binary64} {below : Bool} {m n d : Nat} {e : Int}

theorem leadAs : lead = 2 ^ 52 := rfl

theorem fractionAs (x : Binary64) : x.bits.toNat % 2 ^ 52 = x.fractionBits := rfl

theorem exponentAs (x : Binary64) : x.bits.toNat / 2 ^ 52 % 2048 = x.exponentBits := by
  rw [exponentBits, Nat.shiftRight_eq_div_pow]

theorem negativeAs (x : Binary64) : x.bits.toNat / 2 ^ 63 = x.negative.toNat := by
  have range := x.bits.toNat_lt
  rw [negative, Nat.shiftRight_eq_div_pow]
  obtain zero | one : x.bits.toNat / 2 ^ 63 = 0 ∨ x.bits.toNat / 2 ^ 63 = 1 := by omega
  · rw [zero]
    rfl
  · rw [one]
    rfl

theorem subnormalSize (f : Nat) :
    (f : ℚ) / 2 ^ 52 * 2 ^ (-1022 : Int) = f * 2 ^ (-1074 : Int) := by
  have split : (2 : ℚ) ^ (-1022 : Int) = 2 ^ 52 * 2 ^ (-1074 : Int) := by
    rw [← zpow_natCast, ← zpow_add₀ two_ne_zero]
    rfl
  rw [split]
  ring

theorem normalSize (f : Nat) (exponent : Int) :
    (1 + (f : ℚ) / 2 ^ 52) * 2 ^ (exponent - 1023) =
      ((lead + f : Nat) : ℚ) * 2 ^ (exponent - 1075) := by
  have split : (2 : ℚ) ^ (exponent - 1023) = 2 ^ 52 * 2 ^ (exponent - 1075) := by
    rw [← zpow_natCast, ← zpow_add₀ two_ne_zero]
    congr 1
    push_cast
    ring
  rw [split, leadAs]
  push_cast
  ring

/-- A number's bits are those of an infinity or of no number, or have the least exponent, or one
between. -/
inductive Placed (x : Binary64) : Shape → Prop
  | special (shape : Shape) (unvalued : shape.value? = none) (top : x.exponentBits = 2047) :
      Placed x shape
  | subnormal (least : x.exponentBits = 0) :
      Placed x (.finite x.negative x.fractionBits (-1074))
  | normal (above : x.exponentBits ≠ 0) (inside : x.exponentBits ≠ 2047) :
      Placed x (.finite x.negative (lead + x.fractionBits) (x.exponentBits - 1075))

theorem shapePlaced (x : Binary64) : Placed x x.shape := by
  rw [shape]
  split
  · next top =>
    split
    · exact .special _ rfl top
    · exact .special _ rfl top
  · next inside =>
    split
    · next least => exact .subnormal least
    · next above => exact .normal above inside

theorem valueShape (x : Binary64) : x.value? = x.shape.value? := by
  have place := shapePlaced x
  generalize x.shape = shape at place ⊢
  rw [value?, exponentAs, fractionAs, negativeAs]
  cases place with
  | special _ unvalued top => rw [unvalued, if_pos top]
  | subnormal least =>
    rw [if_neg (by rw [least]; decide), if_pos least, subnormalSize]
    cases x.negative <;> rfl
  | normal above inside =>
    rw [if_neg inside, if_neg above, normalSize]
    cases x.negative <;> rfl

theorem shapeSmall (finite : x.shape = .finite below m e) : m < 2 ^ 53 := by
  have fraction : x.fractionBits < 2 ^ 52 := Nat.mod_lt _ (by decide)
  have place := shapePlaced x
  rw [finite] at place
  cases place with
  | special _ unvalued => nomatch unvalued
  | subnormal => omega
  | normal =>
    rw [leadAs]
    omega

theorem valuePositive (m : Nat) (e : Int) : 0 < (m * 2 ^ e : ℚ) ↔ m ≠ 0 := by
  have power : (0 : ℚ) < 2 ^ e := by positivity
  rw [mul_pos_iff_of_pos_right power, Nat.cast_pos, Nat.pos_iff_ne_zero]

theorem positiveShape {v : ℚ} : x.value? = some v ∧ 0 < v ↔
    ∃ m e, x.shape = .finite false m e ∧ m ≠ 0 ∧ v = m * 2 ^ e := by
  rw [valueShape]
  constructor
  · rintro ⟨value, positive⟩
    cases shape : x.shape with
    | nan => simp [shape, Shape.value?] at value
    | infinite below => simp [shape, Shape.value?] at value
    | finite below m e =>
      rw [shape] at value
      have power : (0 : ℚ) ≤ m * 2 ^ e := by positivity
      cases below with
      | false =>
        obtain rfl : m * 2 ^ e = v := Option.some.inj value
        exact ⟨m, e, rfl, (valuePositive m e).mp positive, rfl⟩
      | true =>
        obtain rfl : -(m * 2 ^ e) = v := Option.some.inj value
        linarith
  · rintro ⟨m, e, shape, filled, rfl⟩
    rw [shape]
    exact ⟨rfl, (valuePositive m e).mpr filled⟩

theorem roundedFrame (n : Nat) (positive : 0 < d) :
    2 * n ≤ 2 * (d * roundHalfEven n d) + d ∧ 2 * (d * roundHalfEven n d) ≤ 2 * n + d := by
  have parts := Nat.div_add_mod n d
  have rest := Nat.mod_lt n positive
  rw [roundHalfEven]
  split
  · omega
  split
  · rw [Nat.mul_add_one]
    omega
  · obtain even | odd := Nat.mod_two_eq_zero_or_one (n / d)
    · rw [even, Nat.add_zero]
      omega
    · rw [odd, Nat.mul_add_one]
      omega

theorem roundedZero (n : Nat) (positive : 0 < d) : roundHalfEven n d = 0 ↔ 2 * n ≤ d := by
  obtain ⟨above, below⟩ := roundedFrame n positive
  constructor
  · intro zero
    simpa [zero] using above
  · intro small
    rw [roundHalfEven, Nat.div_eq_of_lt (by omega), Nat.mod_eq_of_lt (by omega)]
    split
    · rfl
    split
    · omega
    · rfl

theorem roundedNear (n : Nat) (positive : 0 < d) : |(roundHalfEven n d : ℚ) - n / d| ≤ 1 / 2 := by
  obtain ⟨above, below⟩ := roundedFrame n positive
  have above : (2 * n : ℚ) ≤ 2 * (d * roundHalfEven n d) + d := by exact_mod_cast above
  have below : (2 * (d * roundHalfEven n d) : ℚ) ≤ 2 * n + d := by exact_mod_cast below
  have divisor : (0 : ℚ) < d := by exact_mod_cast positive
  have scaled : (roundHalfEven n d : ℚ) - n / d = (d * roundHalfEven n d - n) / d := by
    field_simp
  rw [scaled, abs_div, abs_of_pos divisor, div_le_iff₀ divisor, abs_le]
  constructor <;> linarith

theorem assembleShape (normal : lead ≤ m) (small : m < 2 * lead) (low : -1074 ≤ e)
    (high : e ≤ 971) : (assemble m e).shape = .finite false m e := by
  have bits : (assemble m e).bits.toNat = (e + 1075).toNat * lead + (m - lead) := by
    rw [assemble]
    simp only [if_neg (Nat.ne_of_lt small), if_neg (Nat.not_lt.mpr normal),
      if_neg (not_lt.mpr high)]
    rw [leadAs] at *
    simp only [Nat.toUInt64_eq, UInt64.toNat_ofNat']
    omega
  have exponent : (assemble m e).exponentBits = (e + 1075).toNat := by
    rw [← exponentAs, bits]
    rw [leadAs] at *
    omega
  have fraction : (assemble m e).fractionBits = m - lead := by
    rw [← fractionAs, bits]
    rw [leadAs] at *
    omega
  have sign : (assemble m e).negative = false := by
    have place := negativeAs (assemble m e)
    rw [bits] at place
    rw [leadAs] at *
    rw [← Bool.toNat_eq_zero, ← place]
    omega
  rw [shape, exponent, fraction, sign, if_neg (by omega), if_neg (by omega)]
  simp only [Shape.finite.injEq, true_and]
  omega

theorem roundedWhole (n : Nat) : roundHalfEven n 1 = n := by
  simp [roundHalfEven, Nat.mod_one]

theorem scaleWhole (filled : n ≠ 0) : scaleOf n 1 = (n.log2 : Int) - 52 := by
  have reach := Nat.log2_self_le filled
  have one : Nat.log2 1 = 0 := by decide
  have whole : ((n.log2 : Int) - (0 : Nat)).toNat = n.log2 := by omega
  have unshifted : (0 : Int) ≤ (n.log2 : Int) - (0 : Nat) := by omega
  simp only [scaleOf, one, whole, if_pos unshifted, Nat.one_shiftLeft]
  rw [if_neg (Nat.not_lt.mpr reach)]
  omega

theorem wholeExact (small : n ≤ 2 ^ 53) : (ofInt n).value? = some (n : ℚ) := by
  obtain rfl | filled := Nat.eq_zero_or_pos n
  · decide +kernel
  obtain rfl | small := Nat.eq_or_lt_of_le small
  · decide +kernel
  have filled := Nat.pos_iff_ne_zero.mp filled
  have reach := Nat.log2_self_le filled
  have frame : n < 2 ^ (n.log2 + 1) := Nat.lt_log2_self
  have digits : n.log2 ≤ 52 := Nat.lt_succ_iff.mp ((Nat.log2_lt filled).mpr small)
  -- The bits up to the format's fifty-three are filled with zeros, so nothing is rounded.
  obtain ⟨k, rest⟩ := Nat.exists_eq_add_of_le digits
  have made : ofInt n = assemble (n * 2 ^ k) (-(k : Int)) := by
    rw [ofInt, if_neg (by omega), Int.natAbs_natCast, ofRatio, if_neg (by simp [filled])]
    simp only [scaleWhole filled]
    have scale : (n.log2 : Int) - 52 = -(k : Int) := by omega
    rw [scale]
    split
    · have none : k = 0 := by omega
      subst none
      simp [roundedWhole]
    · simp [roundedWhole, Nat.shiftLeft_eq]
  have normal : lead ≤ n * 2 ^ k := calc
    lead = 2 ^ n.log2 * 2 ^ k := by rw [leadAs, rest, Nat.pow_add]
    _ ≤ n * 2 ^ k := Nat.mul_le_mul_right _ reach
  have bounded : n * 2 ^ k < 2 * lead := calc
    n * 2 ^ k < 2 ^ (n.log2 + 1) * 2 ^ k := Nat.mul_lt_mul_of_pos_right frame (by positivity)
    _ = 2 * lead := by rw [leadAs, rest]; ring
  rw [made, valueShape, assembleShape normal bounded (by omega) (by omega), Shape.value?]
  have power : (2 : ℚ) ^ k * 2 ^ (-(k : Int)) = 1 := by
    rw [zpow_neg, zpow_natCast, mul_inv_cancel₀ (by positivity)]
  simp only [Bool.false_eq_true, if_false, Option.some.injEq]
  push_cast
  rw [mul_assoc, power, mul_one]

end FolderWatch.Binary64
