import FolderWatch.Proofs.Time.Duration
import FolderWatch.Settings.Basic
import Mathlib.Data.Nat.Bitwise

/-! Which settings a watch can run with, and what it makes of them: its sleep, its buffer and the
mask of what it asks for. -/
namespace FolderWatch.Settings

open Binary64 (positiveShape)

variable {s : Settings} {x : Binary64} {v : ℚ}

/-- Settings with which a watch can run: a sleep that is a span of time and not nothing, a buffer of
at most 64 KiB and something to ask for. -/
structure Usable (s : Settings) : Prop where
  spanned : ∃ v, s.latency.value? = some v ∧ 0 < v ∧ v < 2 ^ 64
  sized : 1 ≤ s.bufferRecords.toNat ∧ s.bufferRecords.toNat ≤ 4096
  watching : s.interests ≠ []

theorem positiveIff : isPositive x = true ↔ ∃ v, x.value? = some v ∧ 0 < v := by
  simp only [positiveShape]
  constructor
  · intro positive
    rw [isPositive] at positive
    split at positive
    · next below m e shape =>
      obtain ⟨rfl, filled⟩ : below = false ∧ m ≠ 0 := by simpa using positive
      exact ⟨_, m, e, shape, filled, rfl⟩
    · contradiction
  · rintro ⟨_, m, e, shape, filled, -⟩
    simp [isPositive, shape, filled]

theorem bytesExact (few : s.bufferRecords.toNat ≤ 4096) :
    s.bufferBytes = 16 * s.bufferRecords.toNat := by
  rw [bufferBytes, recordBytes, UInt64.size]
  omega

theorem bytesFit : s.bufferBytes ≤ Flaw.maxBufferBytes ↔ s.bufferRecords.toNat ≤ 4096 := by
  rw [bufferBytes, recordBytes, UInt64.size, Flaw.maxBufferBytes]
  omega

theorem someRecords : s.bufferRecords ≠ 0 ↔ 1 ≤ s.bufferRecords.toNat := by
  rw [Nat.one_le_iff_ne_zero, ← UInt64.toNat_zero, ne_eq, ne_eq, UInt64.toNat_inj]

theorem checkPassed {found : Prop} [Decidable found] {flaw : Flaw} {rest : Option Flaw} :
    (if found then some flaw else rest) = none ↔ ¬ found ∧ rest = none := by
  split <;> simp_all

theorem flawless : s.flaw? = none ↔
    isPositive s.latency = true ∧ Duration.ofSeconds? s.latency ≠ none ∧ s.bufferRecords ≠ 0 ∧
      s.bufferBytes ≤ Flaw.maxBufferBytes ∧ s.interests ≠ [] := by
  simp [flaw?, checkPassed]

theorem usableIff : s.validate = .ok () ↔ Usable s := by
  have checked : s.validate = .ok () ↔ s.flaw? = none := by
    rw [validate]
    cases s.flaw? <;> simp
  rw [checked, flawless, positiveIff, someRecords, bytesFit]
  constructor
  · rintro ⟨⟨v, value, positive⟩, short, filled, few, watching⟩
    rw [ne_eq, Duration.spanTooLong value positive, not_le] at short
    exact ⟨⟨v, value, positive, short⟩, ⟨filled, few⟩, watching⟩
  · rintro ⟨⟨v, value, positive, short⟩, ⟨filled, few⟩, watching⟩
    rw [← not_le, ← Duration.spanTooLong value positive] at short
    exact ⟨⟨v, value, positive⟩, short, filled, few, watching⟩

theorem Usable.sleeps (usable : Usable s) : ∃ v d, s.latency.value? = some v ∧
    Duration.ofSeconds? s.latency = some d ∧ s.sleep = d ∧ d.seconds < UInt64.size ∧
      d.nanos < Duration.second ∧ |d.length - v| ≤ 1 / 2 / Duration.second ∧
      (d = ⟨0, 0⟩ ↔ v ≤ 1 / 2 / Duration.second) := by
  obtain ⟨v, value, positive, short⟩ := usable.spanned
  rw [← not_le, ← Duration.spanTooLong value positive] at short
  obtain ⟨d, made⟩ := Option.ne_none_iff_exists'.mp short
  have sleeps : s.sleep = d := by rw [sleep, made, Option.getD_some]
  exact ⟨v, d, value, made, sleeps, Duration.spanNear value positive made⟩

section Mask

variable {i j : Interest} {is : List Interest}

def place : Interest → Nat
  | .fileName => 0
  | .dirName => 1
  | .lastWrite => 4
  | .lastAccess => 5
  | .creation => 6

theorem bitPlaced (i : Interest) : i.bit.toNat = 2 ^ place i := by
  cases i <;> rfl

theorem placeSame : place i = place j ↔ i = j := by
  cases i <;> cases j <;> decide

theorem bitsGathered (m : UInt32) (is : List Interest) (k : Nat) :
    (is.foldl (fun m i => m ||| i.bit) m).toNat.testBit k = true ↔
      m.toNat.testBit k = true ∨ ∃ i ∈ is, place i = k := by
  induction is generalizing m with
  | nil => simp
  | cons i is ih =>
    rw [List.foldl_cons, ih, UInt32.toNat_or, Nat.testBit_or, bitPlaced, Nat.testBit_two_pow]
    simp [or_assoc]

theorem maskBits (s : Settings) (k : Nat) :
    s.mask.toNat.testBit k = true ↔ ∃ i ∈ s.interests, place i = k := by
  simp [mask, bitsGathered]

theorem maskTells (s : Settings) (i : Interest) :
    s.mask.toNat.testBit (place i) = true ↔ i ∈ s.interests := by
  simp [maskBits, placeSame]

theorem maskSame (s t : Settings) :
    s.mask = t.mask ↔ ∀ i, i ∈ s.interests ↔ i ∈ t.interests := by
  constructor
  · intro same i
    rw [← maskTells, same, maskTells]
  · intro same
    refine UInt32.toNat_inj.mp (Nat.eq_of_testBit_eq fun k => Bool.eq_iff_iff.mpr ?_)
    simp only [maskBits, same]

theorem maskFilled (watching : s.interests ≠ []) : s.mask ≠ 0 := by
  obtain ⟨i, inside⟩ := List.exists_mem_of_ne_nil _ watching
  intro zero
  have bit := (maskTells s i).mpr inside
  simp [zero] at bit

end Mask

/-- Settings are accepted exactly if a watch can run with them. It then sleeps for a span of time
that is at most half a nanosecond off, its buffer has sixteen bytes for a record, and its mask has
the bits of what it asks for and no others, so that it tells just that. -/
theorem usableExactly (s : Settings) :
    (s.validate = .ok () ↔ Usable s) ∧
      (s.validate = .ok () →
        (∃ v d, s.latency.value? = some v ∧ Duration.ofSeconds? s.latency = some d ∧ s.sleep = d ∧
          d.seconds < 2 ^ 64 ∧ d.nanos < 10 ^ 9 ∧ |d.length - v| ≤ 1 / 2 / 10 ^ 9) ∧
        s.bufferBytes = 16 * s.bufferRecords.toNat ∧ s.mask ≠ 0 ∧
        (∀ k, s.mask.toNat.testBit k = true ↔ ∃ i ∈ s.interests, i.bit.toNat = 2 ^ k) ∧
        ∀ t : Settings, t.mask = s.mask ↔ ∀ i, i ∈ t.interests ↔ i ∈ s.interests) := by
  refine ⟨usableIff, fun accepted => ?_⟩
  have usable := usableIff.mp accepted
  refine ⟨?_, bytesExact usable.sized.2, maskFilled usable.watching, fun k => ?_, fun t =>
    maskSame t s⟩
  · obtain ⟨v, d, value, made, sleeps, seconds, nanos, near, -⟩ := usable.sleeps
    rw [Duration.secondAs] at near
    exact ⟨v, d, value, made, sleeps, seconds, nanos, near⟩
  · simp only [maskBits, bitPlaced, Nat.pow_right_inj Nat.one_lt_two]

/-- Almost a second of sleep, which is rounded up to a whole one, and the largest buffer. -/
theorem almostASecond :
    let s : Settings := ⟨⟨0x3FEFFFFFFFF24190⟩, 4096, false, [.creation, .fileName, .creation], []⟩
    s.validate = .ok () ∧
      (∃ v, s.latency.value? = some v ∧ |(⟨1, 0⟩ : Duration).length - v| ≤ 1 / 2 / 10 ^ 9) ∧
      s.sleep = ⟨1, 0⟩ ∧ s.bufferBytes = 65536 ∧ s.mask ≠ 0 ∧
      { s with interests := [.fileName, .creation] }.mask = s.mask := by
  intro s
  have accepted : s.validate = .ok () := by decide +kernel
  obtain ⟨-, told⟩ := usableExactly s
  obtain ⟨⟨v, d, value, made, sleeps, -, -, near⟩, bytes, filled, -, same⟩ := told accepted
  obtain rfl : (⟨1, 0⟩ : Duration) = d := by
    have whole : Duration.ofSeconds? s.latency = some ⟨1, 0⟩ := by decide +kernel
    exact Option.some.inj (whole.symm.trans made)
  refine ⟨accepted, ⟨v, value, near⟩, sleeps, bytes, filled, (same _).mpr fun i => ?_⟩
  cases i <;> decide

/-- Accepted settings make for a sleep exactly if their latency is above half a nanosecond; the
sleep is rounded only after the check that it is positive. -/
theorem sleepsAboveHalfNano (s : Settings) (accepted : s.validate = .ok ()) :
    ∃ v, s.latency.value? = some v ∧ (0 < s.sleep.length ↔ 1 / 2 / 10 ^ 9 < v) := by
  obtain ⟨v, d, value, -, sleeps, -, -, -, nothing⟩ := (usableIff.mp accepted).sleeps
  rw [Duration.secondAs] at nothing
  exact ⟨v, value, by rw [sleeps, Duration.lengthPositive, ne_eq, nothing, not_le]⟩

theorem halfNanoNeighbours :
    let s (bits : UInt64) : Settings := { Settings.default with latency := ⟨bits⟩ }
    (s 0x3E012E0BE826D694).validate = .ok () ∧ ¬ 0 < (s 0x3E012E0BE826D694).sleep.length ∧
      (s 0x3E012E0BE826D695).validate = .ok () ∧ 0 < (s 0x3E012E0BE826D695).sleep.length := by
  intro s
  have low : (s 0x3E012E0BE826D694).validate = .ok () := by decide +kernel
  have high : (s 0x3E012E0BE826D695).validate = .ok () := by decide +kernel
  have below : (s 0x3E012E0BE826D694).latency.value?.all (¬ 1 / 2 / 10 ^ 9 < ·) = true := by
    decide +kernel
  have above : (s 0x3E012E0BE826D695).latency.value?.all (1 / 2 / 10 ^ 9 < ·) = true := by
    decide +kernel
  obtain ⟨v, value, sleeps⟩ := sleepsAboveHalfNano _ low
  obtain ⟨w, other, wakes⟩ := sleepsAboveHalfNano _ high
  rw [value, Option.all_some, decide_eq_true_eq] at below
  rw [other, Option.all_some, decide_eq_true_eq] at above
  exact ⟨low, mt sleeps.mp below, high, wakes.mpr above⟩

/-- A tenth of a nanosecond is a positive number of seconds and no time to sleep. -/
theorem tenthNanoNeverSleeps :
    let s : Settings := { Settings.default with latency := ⟨0x3DDB7CDFD9D7BDBB⟩ }
    s.validate = .ok () ∧ ¬ 0 < s.sleep.length := by
  decide +kernel

end FolderWatch.Settings
