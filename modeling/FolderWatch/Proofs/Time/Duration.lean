import FolderWatch.Proofs.Number.Value
import FolderWatch.Time.Duration

/-! Spans of time against the exact number of seconds that they stand for. -/
namespace FolderWatch.Duration

open Binary64

variable {m : Nat} {e : Int} {x : Binary64} {v : ℚ} {d : Duration}

def length (d : Duration) : ℚ := d.seconds + d.nanos / second

theorem secondAs : (second : ℚ) = 10 ^ 9 := by
  norm_num [second]

theorem lengthPositive : 0 < d.length ↔ d ≠ ⟨0, 0⟩ := by
  obtain ⟨seconds, nanos⟩ := d
  have unit : (0 : ℚ) < second := by norm_num [secondAs]
  have whole : (⟨seconds, nanos⟩ : Duration).length =
      (seconds * second + nanos : Nat) / second := by
    rw [length]
    push_cast
    field_simp
  rw [whole, div_pos_iff_of_pos_right unit, Nat.cast_pos, ne_eq, mk.injEq, second]
  omega

theorem ofNanosLength (n : Nat) : (ofNanos n).length = n / second := by
  have parts : (second * (n / second : Nat) + (n % second : Nat) : ℚ) = n := by
    exact_mod_cast Nat.div_add_mod n second
  have unit : (second : ℚ) ≠ 0 := by norm_num [secondAs]
  rw [length, ofNanos, ← parts]
  field_simp

theorem ofNanosZero (n : Nat) : ofNanos n = ⟨0, 0⟩ ↔ n = 0 := by
  constructor
  · intro zero
    obtain ⟨seconds, nanos⟩ := Duration.mk.inj zero
    rw [← Nat.div_add_mod n second, seconds, nanos]
    rfl
  · rintro rfl
    rfl

theorem nearestWhole (m : Nat) (whole : 0 ≤ e) :
    (nearestNanos m e : ℚ) = m * 2 ^ e * second := by
  obtain ⟨k, rfl⟩ := Int.eq_ofNat_of_zero_le whole
  rw [nearestNanos, if_pos whole, Nat.shiftLeft_eq, zpow_natCast]
  push_cast
  rfl

theorem nearestPart (m : Nat) (part : ¬ 0 ≤ e) : ∃ d : Nat, 0 < d ∧
    nearestNanos m e = roundHalfEven (m * second) d ∧
      ((m * second : Nat) : ℚ) / d = m * 2 ^ e * second := by
  obtain ⟨k, rfl⟩ := Int.exists_eq_neg_ofNat (Int.le_of_lt (Int.not_le.mp part))
  refine ⟨2 ^ k, by positivity, ?_, ?_⟩
  · rw [nearestNanos, if_neg part, Nat.one_shiftLeft, Int.neg_neg]
    rfl
  · rw [zpow_neg, zpow_natCast]
    push_cast
    field_simp

theorem nearestNear (m : Nat) (e : Int) :
    |(nearestNanos m e : ℚ) - m * 2 ^ e * second| ≤ 1 / 2 := by
  by_cases whole : 0 ≤ e
  · rw [nearestWhole m whole, sub_self, abs_zero]
    norm_num
  · obtain ⟨d, positive, rounded, quotient⟩ := nearestPart m whole
    rw [rounded, ← quotient]
    exact roundedNear _ positive

theorem nearestZero (m : Nat) (e : Int) :
    nearestNanos m e = 0 ↔ (m * 2 ^ e * second : ℚ) ≤ 1 / 2 := by
  by_cases whole : 0 ≤ e
  · rw [← nearestWhole m whole]
    constructor
    · intro zero
      rw [zero]
      norm_num
    · intro small
      have below : (nearestNanos m e : ℚ) < 1 := lt_of_le_of_lt small (by norm_num)
      exact Nat.lt_one_iff.mp (by exact_mod_cast below)
  · obtain ⟨d, positive, rounded, quotient⟩ := nearestPart m whole
    have divisor : (0 : ℚ) < d := by exact_mod_cast positive
    rw [rounded, ← quotient, roundedZero _ positive, div_le_iff₀ divisor, ← Nat.cast_le (α := ℚ)]
    push_cast
    constructor <;> intro small <;> linarith

/-- Rounding never takes a number up to the seconds that are too many: one with a fraction is far
below them. -/
theorem nearestPast (small : m < 2 ^ 53) (e : Int) :
    UInt64.size * second ≤ nearestNanos m e ↔ 2 ^ 64 ≤ (m * 2 ^ e : ℚ) := by
  have size : ((UInt64.size * second : Nat) : ℚ) = 2 ^ 64 * second := by norm_num [UInt64.size]
  rw [← Nat.cast_le (α := ℚ), size]
  by_cases whole : 0 ≤ e
  · rw [nearestWhole m whole, secondAs]
    exact mul_le_mul_iff_left₀ (by norm_num)
  · have power : (2 : ℚ) ^ e ≤ 1 := zpow_le_one_of_nonpos₀ (by norm_num) (by omega)
    have mantissa : (m : ℚ) < 2 ^ 53 := by exact_mod_cast small
    have few : (m * 2 ^ e : ℚ) < 2 ^ 53 :=
      lt_of_le_of_lt (mul_le_of_le_one_right (Nat.cast_nonneg m) power) mantissa
    have near := (abs_le.mp (nearestNear m e)).2
    rw [secondAs] at near ⊢
    constructor <;> intro past <;> linarith

theorem ofSecondsFinite (shape : x.shape = .finite false m e) :
    ofSeconds? x = if UInt64.size * second ≤ nearestNanos m e then none
      else some (ofNanos (nearestNanos m e)) := by
  simp only [ofSeconds?, shape, Bool.false_and, Bool.false_or, decide_eq_true_eq]

theorem spanTooLong (value : x.value? = some v) (positive : 0 < v) :
    ofSeconds? x = none ↔ 2 ^ 64 ≤ v := by
  obtain ⟨m, e, shape, -, rfl⟩ := positiveShape.mp ⟨value, positive⟩
  rw [ofSecondsFinite shape, ← nearestPast (shapeSmall shape)]
  simp

/-- A span lies at most half a nanosecond from the number it was made from, and it is nothing at all
for a number of half a nanosecond or less. -/
theorem spanNear (value : x.value? = some v) (positive : 0 < v) (made : ofSeconds? x = some d) :
    d.seconds < UInt64.size ∧ d.nanos < second ∧ |d.length - v| ≤ 1 / 2 / second ∧
      (d = ⟨0, 0⟩ ↔ v ≤ 1 / 2 / second) := by
  obtain ⟨m, e, shape, -, rfl⟩ := positiveShape.mp ⟨value, positive⟩
  have unit : (0 : ℚ) < second := by norm_num [secondAs]
  rw [ofSecondsFinite shape] at made
  split at made
  · contradiction
  · next fits =>
    obtain rfl : ofNanos (nearestNanos m e) = d := Option.some.inj made
    have seconds : nearestNanos m e / second < UInt64.size :=
      (Nat.div_lt_iff_lt_mul (by decide)).mpr (Nat.not_le.mp fits)
    refine ⟨seconds, Nat.mod_lt _ (by decide), ?_, ?_⟩
    · have scaled : (ofNanos (nearestNanos m e)).length - m * 2 ^ e =
          (nearestNanos m e - m * 2 ^ e * second) / second := by
        rw [ofNanosLength]
        field_simp
      rw [scaled, abs_div, abs_of_pos unit]
      exact div_le_div_of_nonneg_right (nearestNear m e) unit.le
    · rw [ofNanosZero, nearestZero, le_div_iff₀ unit]

end FolderWatch.Duration
