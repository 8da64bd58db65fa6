import FolderWatch.Table

/-! Where an entry of a table stands. With every key once, a table splits around an entry, and
setting or erasing that key touches nothing else. -/
namespace FolderWatch.Table

variable {κ α : Type} [DecidableEq κ]

theorem memOfGet {t : Table κ α} {key : κ} {x : α} (found : t.get? key = some x) : (key, x) ∈ t := by
  induction t with
  | nil => simp at found
  | cons e t ih =>
    obtain ⟨k, v⟩ := e
    by_cases same : k = key
    · subst same
      simp only [get?, if_true, Option.some.injEq] at found
      subst found
      exact List.mem_cons_self
    · simp only [get?, same, if_false] at found
      exact List.mem_cons_of_mem _ (ih found)

omit [DecidableEq κ] in
theorem keyOfMem {t : Table κ α} {key : κ} {x : α} (inside : (key, x) ∈ t) : key ∈ t.keys :=
  List.mem_map.mpr ⟨(key, x), inside, rfl⟩

theorem getOfKey {t : Table κ α} {key : κ} (inside : key ∈ t.keys) : ∃ x, t.get? key = some x := by
  induction t with
  | nil => simp [keys] at inside
  | cons e t ih =>
    obtain ⟨k, v⟩ := e
    by_cases same : k = key
    · exact ⟨v, by simp [get?, same]⟩
    · simp only [keys, List.map_cons, List.mem_cons, Ne.symm same, false_or] at inside
      obtain ⟨x, found⟩ := ih inside
      exact ⟨x, by simp [get?, same, found]⟩

theorem getOfMem {t : Table κ α} {key : κ} {x : α} (once : t.keys.Nodup) (inside : (key, x) ∈ t) :
    t.get? key = some x := by
  induction t with
  | nil => cases inside
  | cons e t ih =>
    obtain ⟨k, v⟩ := e
    obtain ⟨fresh, once⟩ := List.nodup_cons.mp once
    rcases List.mem_cons.mp inside with same | later
    · cases same
      simp only [get?, if_true]
    · have other : k ≠ key := fun same => fresh (same ▸ keyOfMem later)
      simp only [get?, other, if_false]
      exact ih once later

theorem absent {t : Table κ α} {key : κ} : t.get? key = none ↔ key ∉ t.keys := by
  constructor
  · intro missing inside
    obtain ⟨x, found⟩ := getOfKey inside
    simp [missing] at found
  · intro outside
    cases found : t.get? key with
    | none => rfl
    | some x => exact absurd (keyOfMem (memOfGet found)) outside

theorem setAbsent {t : Table κ α} {key : κ} (missing : t.get? key = none) (x : α) :
    t.set key x = t ++ [(key, x)] := by
  induction t with
  | nil => rfl
  | cons e t ih =>
    obtain ⟨k, v⟩ := e
    by_cases same : k = key
    · simp [get?, same] at missing
    · simp only [get?, same, if_false] at missing
      simp only [set, same, if_false, ih missing, List.cons_append]

theorem eraseAbsent {t : Table κ α} {key : κ} (outside : key ∉ t.keys) : t.erase key = t := by
  induction t with
  | nil => rfl
  | cons e t ih =>
    obtain ⟨k, v⟩ := e
    simp only [keys, List.map_cons, List.mem_cons, not_or] at outside
    simp only [erase, Ne.symm outside.1, if_false, ih outside.2]

theorem splitAt {t : Table κ α} {key : κ} {x : α} (once : t.keys.Nodup)
    (found : t.get? key = some x) :
    ∃ before after, t = before ++ (key, x) :: after ∧ t.erase key = before ++ after ∧
      ∀ y, t.set key y = before ++ (key, y) :: after := by
  induction t with
  | nil => simp at found
  | cons e t ih =>
    obtain ⟨k, v⟩ := e
    obtain ⟨fresh, once⟩ := List.nodup_cons.mp once
    by_cases same : k = key
    · subst same
      simp only [get?, if_true, Option.some.injEq] at found
      subst found
      refine ⟨[], t, rfl, ?_, fun y => ?_⟩
      · simp only [erase, if_true, eraseAbsent fresh, List.nil_append]
      · simp only [set, if_true, List.nil_append]
    · simp only [get?, same, if_false] at found
      obtain ⟨before, after, whole, erased, updated⟩ := ih once found
      refine ⟨(k, v) :: before, after, ?_, ?_, fun y => ?_⟩
      · rw [whole, List.cons_append]
      · simp only [erase, same, if_false, erased, List.cons_append]
      · simp only [set, same, if_false, updated, List.cons_append]

theorem eraseOnce {t : Table κ α} (once : t.keys.Nodup) (key : κ) : (t.erase key).keys.Nodup := by
  cases found : t.get? key with
  | none => rwa [eraseAbsent (absent.mp found)]
  | some x =>
    obtain ⟨before, after, whole, erased, -⟩ := splitAt once found
    rw [whole, keys, List.map_append, List.map_cons] at once
    rw [erased, keys, List.map_append]
    exact once.sublist ((List.Sublist.refl _).append (List.sublist_cons_self _ _))

theorem setOnce {t : Table κ α} (once : t.keys.Nodup) (key : κ) (x : α) :
    (t.set key x).keys.Nodup := by
  cases found : t.get? key with
  | none =>
    rw [setAbsent found, keys, List.map_append, List.nodup_append]
    refine ⟨once, by simp, fun k inside last new same => ?_⟩
    rw [same, List.mem_singleton.mp new] at inside
    exact absent.mp found inside
  | some y =>
    obtain ⟨before, after, whole, -, updated⟩ := splitAt once found
    rw [whole] at once
    rw [updated]
    simpa [keys] using once

/-- What stood under a key, with what the others hold, is what the table held before. -/
theorem eraseValues {t : Table κ α} (once : t.keys.Nodup) (key : κ) :
    ((t.get? key).toList ++ (t.erase key).values).Perm t.values := by
  cases found : t.get? key with
  | none => rw [eraseAbsent (absent.mp found)]; exact .rfl
  | some x =>
    obtain ⟨before, after, whole, erased, -⟩ := splitAt once found
    rw [erased, whole]
    simp only [values, List.map_append, List.map_cons, Option.toList_some, List.singleton_append]
    exact List.perm_middle.symm

theorem setValues {t : Table κ α} (once : t.keys.Nodup) (key : κ) (x : α) :
    ((t.get? key).toList ++ (t.set key x).values).Perm (x :: t.values) := by
  cases found : t.get? key with
  | none =>
    rw [setAbsent found]
    simp only [values, List.map_append, List.map_cons, List.map_nil]
    exact List.perm_append_singleton _ _
  | some y =>
    obtain ⟨before, after, whole, -, updated⟩ := splitAt once found
    rw [updated, whole]
    simp only [values, List.map_append, List.map_cons, Option.toList_some, List.singleton_append]
    exact (List.Perm.cons y List.perm_middle).trans
      ((List.Perm.swap x y _).trans (List.Perm.cons x List.perm_middle.symm))

end FolderWatch.Table
