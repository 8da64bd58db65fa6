import FolderWatch.Path
import FolderWatch.Text.Utf8
import Mathlib.Data.List.Basic

/-! Bytes of a text. A byte below 0x80 is a character of its own, and no character's bytes begin
inside another one's: texts compare as their bytes do, from the front and from the end. -/
namespace FolderWatch.Utf8

variable {a b s : String} {cs ds : List Char} {c : Char} {x : UInt8} {before rest : List UInt8}

theorem encodeAppend (a b : String) : ofString (a ++ b) = ofString a ++ ofString b := by
  simp only [ofString, encode, String.toList_append, List.flatMap_append]

theorem encodeEnds (ends : s.toList.getLast? = some c) :
    ∃ front, ofString s = front ++ String.utf8EncodeChar c := by
  obtain ⟨before, spelled⟩ := List.getLast?_eq_some_iff.mp ends
  refine ⟨encode before, ?_⟩
  rw [ofString, spelled, encode, List.flatMap_append, List.flatMap_singleton, encode]

theorem encodeFilled (filled : s ≠ "") : ofString s ≠ [] := by
  intro empty
  have silent := List.flatMap_eq_nil_iff.mp empty
  cases spelled : s.toList with
  | nil => exact filled (String.toList_eq_nil_iff.mp spelled)
  | cons c cs =>
    exact String.utf8EncodeChar_ne_nil (silent c (spelled ▸ List.mem_cons_self))

theorem encodeInjective (same : encode cs = encode ds) : cs = ds := by
  have bytes : cs.utf8Encode = ds.utf8Encode := congrArg List.toByteArray same
  rw [← String.toByteArray_ofList, ← String.toByteArray_ofList] at bytes
  exact String.ofList_injective (String.toByteArray_inj.mp bytes)

theorem textSame : ofString a = ofString b ↔ a = b :=
  ⟨fun same => String.toList_inj.mp (encodeInjective same), congrArg ofString⟩

theorem lowByte (inside : x ∈ String.utf8EncodeChar c) (low : x.toNat < 0x80) :
    String.utf8EncodeChar c = [x] := by
  revert inside
  fun_cases String.utf8EncodeChar c <;> intro inside
  case case1 => rw [List.mem_singleton.mp inside]
  all_goals
    simp only [List.mem_cons, List.not_mem_nil, or_false] at inside
    rcases inside with rfl | rfl | rfl | rfl <;> simp at low <;> omega

theorem slashInside : Path.slash ∈ encode cs ↔ '/' ∈ cs := by
  have encoded : String.utf8EncodeChar '/' = [Path.slash] := rfl
  simp only [encode, List.mem_flatMap]
  constructor
  · rintro ⟨c, inside, byte⟩
    have single : encode [c] = encode ['/'] := by
      simp [encode, lowByte byte (by decide), encoded]
    cases encodeInjective single
    exact inside
  · intro inside
    exact ⟨'/', inside, by simp [encoded]⟩

theorem dotAtEnd (ends : (encode cs).getLast? = some Path.dot) : cs.getLast? = some '.' := by
  rcases List.eq_nil_or_concat cs with rfl | ⟨front, c, rfl⟩
  · cases ends
  · rw [List.concat_eq_append, encode, List.flatMap_append, List.flatMap_singleton,
      List.getLast?_append_of_ne_nil _ String.utf8EncodeChar_ne_nil] at ends
    have single : encode [c] = encode ['.'] := by
      simp [encode, lowByte (List.mem_of_getLast? ends) (by decide)]
      rfl
    cases encodeInjective single
    simp

theorem startsChar (bytes : encode cs = x :: rest) : x.IsUTF8FirstByte := by
  cases cs with
  | nil => cases bytes
  | cons c cs =>
    have first := UInt8.isUTF8FirstByte_getElem_zero_utf8EncodeChar (c := c)
    cases char : String.utf8EncodeChar c with
    | nil => exact absurd char String.utf8EncodeChar_ne_nil
    | cons y ys =>
      rw [encode, List.flatMap_cons, char] at bytes
      cases bytes
      simpa [char] using first

theorem insideChar (filled : before ≠ []) (char : String.utf8EncodeChar c = before ++ x :: rest) :
    ¬ x.IsUTF8FirstByte := by
  have bound : before.length < (String.utf8EncodeChar c).length := by simp [char]
  have there : (String.utf8EncodeChar c)[before.length] = x := by simp [char]
  intro first
  rw [← there, UInt8.isUTF8FirstByte_getElem_utf8EncodeChar, List.length_eq_zero_iff] at first
  exact filled first

theorem encodeSuffix : encode cs <:+ encode ds ↔ cs <:+ ds := by
  constructor
  · rintro ⟨before, whole⟩
    induction ds generalizing before with
    | nil =>
      have nothing : cs = [] := encodeInjective (List.append_eq_nil_iff.mp whole).2
      exact nothing ▸ List.suffix_rfl
    | cons d ds ih =>
      cases before with
      | nil => exact encodeInjective whole ▸ List.suffix_rfl
      | cons y before =>
        have parts : (y :: before) ++ encode cs = String.utf8EncodeChar d ++ encode ds := whole
        rcases List.append_eq_append_iff.mp parts with ⟨tail, char, bytes⟩ | ⟨further, -, bytes⟩
        · cases tail with
          | nil => exact (ih [] bytes).trans (List.suffix_cons d ds)
          | cons x tail =>
            -- The text would have to begin with a byte from the middle of the character.
            exact absurd (startsChar bytes) (insideChar (List.cons_ne_nil _ _) char)
        · exact (ih further bytes.symm).trans (List.suffix_cons d ds)
  · rintro ⟨front, rfl⟩
    exact ⟨encode front, by simp only [encode, List.flatMap_append]⟩

end FolderWatch.Utf8
