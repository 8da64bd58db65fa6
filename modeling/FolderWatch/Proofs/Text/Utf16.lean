import FolderWatch.Text.Utf16

/-! Characters written in 16-bit units are read back. Whatever follows a character in the
units, it does not change how that character reads. -/
namespace FolderWatch.Utf16

theorem charRange (c : Char) : c.toNat < 0xD800 ∨ 0xDFFF < c.toNat ∧ c.toNat < 0x110000 := by
  have valid : c.toNat.isValidChar := c.valid
  simpa [Nat.isValidChar] using valid

theorem unitNat {n : Nat} (small : n < 0x10000) : n.toUInt16.toNat = n :=
  UInt16.toNat_ofNat_of_lt small

theorem highIff (u : UInt16) : isHigh u = true ↔ 0xD800 ≤ u.toNat ∧ u.toNat ≤ 0xDBFF := by
  simp [isHigh, UInt16.le_iff_toNat_le]

theorem lowIff (u : UInt16) : isLow u = true ↔ 0xDC00 ≤ u.toNat ∧ u.toNat ≤ 0xDFFF := by
  simp [isLow, UInt16.le_iff_toNat_le]

theorem decodeSingle {u : UInt16} (high : isHigh u = false) (rest : List UInt16) :
    decode (u :: rest) = single u :: decode rest := by
  cases rest with
  | nil => rfl
  | cons v rest => simp [decode, high]

/-- Strict reading: units that are half of no pair are no text. -/
def decode? : List UInt16 → Option (List Char)
  | [] => some []
  | [u] => if isHigh u || isLow u then none else some [single u]
  | u :: v :: rest =>
      if isHigh u && isLow v then (decode? rest).map (pair u v :: ·)
      else if isHigh u || isLow u then none
      else (decode? (v :: rest)).map (single u :: ·)

theorem strictSingle {u : UInt16} (high : isHigh u = false) (low : isLow u = false)
    (rest : List UInt16) : decode? (u :: rest) = (decode? rest).map (single u :: ·) := by
  cases rest with
  | nil => simp [decode?, high, low]
  | cons v rest => simp [decode?, high, low]

theorem charUnits (c : Char) :
    (∃ u, encodeChar c = [u] ∧ isHigh u = false ∧ isLow u = false ∧ single u = c) ∨
      ∃ u v, encodeChar c = [u, v] ∧ isHigh u = true ∧ isLow v = true ∧ pair u v = c := by
  have range := charRange c
  unfold encodeChar
  split
  case isTrue small =>
    have unit := unitNat small
    have high : isHigh c.toNat.toUInt16 = false := by
      rw [Bool.eq_false_iff, ne_eq, highIff, unit]
      omega
    have low : isLow c.toNat.toUInt16 = false := by
      rw [Bool.eq_false_iff, ne_eq, lowIff, unit]
      omega
    refine .inl ⟨_, rfl, high, low, ?_⟩
    simp only [single, high, low, unit, Bool.or_self, Bool.false_eq_true, if_false,
      Char.ofNat_toNat]
  case isFalse large =>
    have first : (0xD800 + (c.toNat - 0x10000) / 0x400).toUInt16.toNat =
        0xD800 + (c.toNat - 0x10000) / 0x400 := unitNat (by omega)
    have second : (0xDC00 + (c.toNat - 0x10000) % 0x400).toUInt16.toNat =
        0xDC00 + (c.toNat - 0x10000) % 0x400 := unitNat (by omega)
    have high : isHigh (0xD800 + (c.toNat - 0x10000) / 0x400).toUInt16 = true := by
      rw [highIff, first]
      omega
    have low : isLow (0xDC00 + (c.toNat - 0x10000) % 0x400).toUInt16 = true := by
      rw [lowIff, second]
      omega
    have whole : 0x10000 + (c.toNat - 0x10000) / 0x400 * 0x400 + (c.toNat - 0x10000) % 0x400 =
        c.toNat := by omega
    refine .inr ⟨_, _, rfl, high, low, ?_⟩
    simp only [pair, first, second, Nat.add_sub_cancel_left, whole, Char.ofNat_toNat]

theorem decodeEncodeChar (c : Char) (rest : List UInt16) :
    decode (encodeChar c ++ rest) = c :: decode rest := by
  obtain ⟨u, units, high, -, char⟩ | ⟨u, v, units, high, low, char⟩ := charUnits c
  · rw [units, List.singleton_append, decodeSingle high, char]
  · rw [units, List.cons_append, List.singleton_append, decode, high, low, char]
    rfl

theorem strictEncodeChar (c : Char) (rest : List UInt16) :
    decode? (encodeChar c ++ rest) = (decode? rest).map (c :: ·) := by
  obtain ⟨u, units, high, low, char⟩ | ⟨u, v, units, high, low, char⟩ := charUnits c
  · rw [units, List.singleton_append, strictSingle high low, char]
  · rw [units, List.cons_append, List.singleton_append, decode?, high, low, char]
    rfl

theorem decodeEncode (cs : List Char) : decode (encode cs) = cs := by
  induction cs with
  | nil => rfl
  | cons c cs ih =>
    have split : encode (c :: cs) = encodeChar c ++ encode cs := rfl
    rw [split, decodeEncodeChar, ih]

theorem strictEncode (cs : List Char) : decode? (encode cs) = some cs := by
  induction cs with
  | nil => rfl
  | cons c cs ih =>
    have split : encode (c :: cs) = encodeChar c ++ encode cs := rfl
    rw [split, strictEncodeChar, ih]
    rfl

end FolderWatch.Utf16
