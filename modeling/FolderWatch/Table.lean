/-! Finite tables as lists of keys and values, in the order in which keys came in. -/
namespace FolderWatch

abbrev Table (κ α : Type) := List (κ × α)

namespace Table

variable {κ α : Type} [DecidableEq κ]

def get? : Table κ α → κ → Option α
  | [], _ => none
  | (k, v) :: rest, key => if k = key then some v else get? rest key

def set : Table κ α → κ → α → Table κ α
  | [], key, x => [(key, x)]
  | (k, v) :: rest, key, x => if k = key then (key, x) :: rest else (k, v) :: set rest key x

def erase : Table κ α → κ → Table κ α
  | [], _ => []
  | (k, v) :: rest, key => if k = key then erase rest key else (k, v) :: erase rest key

def keys (t : Table κ α) : List κ := t.map (·.1)
def values (t : Table κ α) : List α := t.map (·.2)

@[simp] theorem getNil (key : κ) : get? ([] : Table κ α) key = none := rfl

theorem getSet (t : Table κ α) (a b : κ) (x : α) :
    (t.set a x).get? b = if a = b then some x else t.get? b := by
  induction t with
  | nil => rfl
  | cons e t ih =>
    obtain ⟨k, v⟩ := e
    by_cases ka : k = a
    · subst ka
      by_cases kb : k = b <;> simp [set, get?, kb]
    · by_cases kb : k = b
      · subst kb; simp [set, get?, ka, Ne.symm ka]
      · simp [set, get?, ka, kb, ih]

theorem getErase (t : Table κ α) (a b : κ) :
    (t.erase a).get? b = if a = b then none else t.get? b := by
  induction t with
  | nil => simp [erase]
  | cons e t ih =>
    obtain ⟨k, v⟩ := e
    by_cases ka : k = a
    · subst ka
      by_cases kb : k = b
      · subst kb; simpa [erase] using ih
      · simp [erase, get?, ih, kb]
    · by_cases kb : k = b
      · subst kb; simp [erase, get?, ka, Ne.symm ka]
      · simp [erase, get?, ka, kb, ih]

end Table
end FolderWatch
