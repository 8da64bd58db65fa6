import FolderWatch.Proofs.Text.Utf16

/-! Units that are half of no pair. The units beside one show whether it is; written anew, a text
read from units has U+FFFD in exactly the places of these, and nothing else in it has moved. -/
namespace FolderWatch.Utf16

/-- A high unit without a low one right behind it, or a low one without a high one right before. -/
def unpaired (units : List UInt16) (i : Nat) : Bool :=
  units[i]?.any isHigh && !units[i + 1]?.any isLow ||
    units[i]?.any isLow && !(0 < i && units[i - 1]?.any isHigh)

def repaired (units : List UInt16) : List UInt16 :=
  units.mapIdx fun i u => if unpaired units i then 0xFFFD else u

theorem repairedAt (units : List UInt16) (i : Nat) :
    (repaired units)[i]? = units[i]?.map fun u => if unpaired units i then 0xFFFD else u := by
  simp [repaired]

theorem repairedLength (units : List UInt16) : (repaired units).length = units.length := by
  simp [repaired]

theorem repairedWhole {units : List UInt16} (whole : ∀ i, unpaired units i = false) :
    repaired units = units := by
  apply List.ext_getElem?
  intro i
  simp [repairedAt, whole]

variable {u v : UInt16} {units : List UInt16}

theorem lowOfHigh (high : isHigh u = true) : isLow u = false := by
  rw [highIff] at high
  rw [Bool.eq_false_iff, ne_eq, lowIff]
  omega

theorem highOfLow (low : isLow u = true) : isHigh u = false := by
  rw [lowIff] at low
  rw [Bool.eq_false_iff, ne_eq, highIff]
  omega

theorem charNat {n : Nat} (valid : n.isValidChar) : (Char.ofNat n).toNat = n := by
  rw [Char.ofNat, dif_pos valid]
  rfl

theorem encodeSingle (u : UInt16) :
    encodeChar (single u) = [if isHigh u || isLow u then 0xFFFD else u] := by
  unfold single
  split
  case isTrue => rfl
  case isFalse whole =>
    have small := u.toNat_lt
    have range : u.toNat.isValidChar := by
      simp only [Bool.or_eq_true, highIff, lowIff] at whole
      unfold Nat.isValidChar
      omega
    rw [encodeChar, charNat range, if_pos (by omega)]
    simp

theorem encodePair (high : isHigh u = true) (low : isLow v = true) :
    encodeChar (pair u v) = [u, v] := by
  rw [highIff] at high
  rw [lowIff] at low
  have range : (0x10000 + (u.toNat - 0xD800) * 0x400 + (v.toNat - 0xDC00)).isValidChar := by
    unfold Nat.isValidChar
    omega
  have first : 0xD800 + (0x10000 + (u.toNat - 0xD800) * 0x400 + (v.toNat - 0xDC00) - 0x10000) /
      0x400 = u.toNat := by omega
  have second : 0xDC00 + (0x10000 + (u.toNat - 0xD800) * 0x400 + (v.toNat - 0xDC00) - 0x10000) %
      0x400 = v.toNat := by omega
  rw [encodeChar, pair, charNat range, if_neg (by omega), first, second]
  simp

-- Whether a unit is unpaired depends on its two neighbours, so one more unit in front can matter in
-- the first place only, and there only where the two make a pair.
theorem unpairedFar (u : UInt16) (units : List UInt16) (i : Nat) :
    unpaired (u :: units) (i + 2) = unpaired units (i + 1) := by
  simp [unpaired]

theorem unpairedApart (apart : isHigh u = false ∨ units[0]?.any isLow = false) (i : Nat) :
    unpaired (u :: units) (i + 1) = unpaired units i := by
  cases i with
  | zero => rcases apart with single | single <;> simp [unpaired, single]
  | succ i => exact unpairedFar u units i

theorem repairedApart (apart : isHigh u = false ∨ units[0]?.any isLow = false) :
    repaired (u :: units) = (if isHigh u || isLow u then 0xFFFD else u) :: repaired units := by
  have first : unpaired (u :: units) 0 = (isHigh u || isLow u) := by
    rcases apart with single | single <;> simp [unpaired, single]
  simp only [repaired, List.mapIdx_cons, first, unpairedApart apart]

theorem repairedPair (high : isHigh u = true) (low : isLow v = true) :
    repaired (u :: v :: units) = u :: v :: repaired units := by
  have first : unpaired (u :: v :: units) 0 = false := by
    simp [unpaired, low, lowOfHigh high]
  have second : unpaired (u :: v :: units) 1 = false := by
    simp [unpaired, high, highOfLow low]
  have rest : ∀ i, unpaired (u :: v :: units) (i + 2) = unpaired units i := fun i =>
    (unpairedFar u (v :: units) i).trans (unpairedApart (.inl (highOfLow low)) i)
  simp [repaired, List.mapIdx_cons, first, second, rest]

theorem encodeDecode (units : List UInt16) : encode (decode units) = repaired units := by
  have head : ∀ c cs, encode (c :: cs) = encodeChar c ++ encode cs := fun _ _ => rfl
  fun_induction decode units with
  | case1 => rfl
  | case2 u =>
    rw [head, encodeSingle, repairedApart (.inr rfl)]
    rfl
  | case3 u v units pairs ih =>
    obtain ⟨high, low⟩ := Bool.and_eq_true_iff.mp pairs
    rw [head, encodePair high low, repairedPair high low, ih]
    rfl
  | case4 u v units apart ih =>
    have single : isHigh u = false ∨ isLow v = false :=
      Bool.and_eq_false_iff.mp (Bool.eq_false_iff.mpr apart)
    rw [head, encodeSingle, repairedApart single, ih]
    rfl

theorem decodeSame (one other : List UInt16) :
    decode one = decode other ↔ repaired one = repaired other := by
  rw [← encodeDecode, ← encodeDecode]
  refine ⟨congrArg encode, fun same => ?_⟩
  rw [← decodeEncode (decode one), same, decodeEncode]

end FolderWatch.Utf16
