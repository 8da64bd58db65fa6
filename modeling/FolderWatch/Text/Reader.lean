/-! Reading a text from its front. A reader takes what it reads off a text and gives it with the text
behind it. -/
namespace FolderWatch

abbrev Reader (α : Type) := List Char → Option (α × List Char)

def hexDigit? (c : Char) : Option Nat :=
  if '0' ≤ c && c ≤ '9' then some (c.toNat - 48)
  else if 'a' ≤ c && c ≤ 'f' then some (c.toNat - 87)
  else if 'A' ≤ c && c ≤ 'F' then some (c.toNat - 55)
  else none

/-- A reader of parts with commas between them has fuel enough in the length of their text. -/
theorem joinedCounted (parts : List (List Char)) :
    parts.length ≤ ([','].intercalate parts).length + 1 := by
  induction parts with
  | nil => exact Nat.zero_le _
  | cons part parts ih =>
    cases parts with
    | nil => exact Nat.le_add_left 1 _
    | cons next parts =>
      rw [List.intercalate_cons_cons]
      simp only [List.length_append, List.length_cons] at ih ⊢
      omega

end FolderWatch
