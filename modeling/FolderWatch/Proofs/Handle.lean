import FolderWatch.Handle
import FolderWatch.Proofs.Table
import Mathlib.Data.List.Nodup

/-! Where handles are. A handle that was taken is with one owner, or closed, or was given away, and
every step moves it at most from the first of these to one of the others. -/
namespace FolderWatch

variable {α : Type} {kind : HandleKind α} {o : Owners α} {raw x : α} {owner : String}

def OwnerStep.taken : OwnerStep α → Option α
  | .take _ raw => some raw
  | _ => none

namespace Owners

def takenBy (steps : List (OwnerStep α)) : List α := steps.filterMap OwnerStep.taken

def givenBy (kind : HandleKind α) (o : Owners α) : List (OwnerStep α) → List α
  | [] => []
  | s :: steps => (o.given s).toList ++ givenBy kind (o.step kind s) steps

structure Kept (kind : HandleKind α) (o : Owners α) : Prop where
  single : o.held.keys.Nodup
  handles : ∀ raw ∈ o.closed, kind.isHandle raw = true

theorem keptEmpty (kind : HandleKind α) : empty.Kept kind := ⟨.nil, nofun⟩

theorem closeLog (kind : HandleKind α) (o : Owners α) (x : α) :
    (o.close kind x).closed = o.closed ++ [x].filter kind.isHandle := by
  rw [close, List.filter_cons, List.filter_nil]
  split
  · rfl
  · rw [List.append_nil]

theorem closeHeld (kind : HandleKind α) (o : Owners α) (x : α) :
    (o.close kind x).held = o.held := by
  rw [close]
  split <;> rfl

theorem Kept.close (kept : o.Kept kind) (x : α) : (o.close kind x).Kept kind where
  single := by
    rw [closeHeld]
    exact kept.single
  handles := by
    intro raw inside
    rw [closeLog] at inside
    rcases List.mem_append.mp inside with old | new
    · exact kept.handles raw old
    · exact (List.mem_filter.mp new).2

theorem Kept.remove (kept : o.Kept kind) (owner : String) : (o.remove owner).2.Kept kind :=
  ⟨Table.eraseOnce kept.single owner, kept.handles⟩

theorem Kept.put (kept : o.Kept kind) (owner : String) (x : α) : (o.put kind owner x).Kept kind := by
  have placed : Kept kind { o with held := o.held.set owner x } :=
    ⟨Table.setOnce kept.single owner x, kept.handles⟩
  rw [Owners.put]
  split
  · exact placed.close _
  · exact placed

theorem Kept.drop (kept : o.Kept kind) (owner : String) : (o.drop kind owner).Kept kind := by
  have gone := kept.remove owner
  rw [Owners.drop]
  split
  · next removed =>
    rw [removed] at gone
    exact gone.close _
  · next removed =>
    rw [removed] at gone
    exact gone

theorem Kept.step (kept : o.Kept kind) (s : OwnerStep α) : (o.step kind s).Kept kind := by
  cases s with
  | take owner raw => exact kept.put owner raw
  | hollow owner => exact kept.put owner kind.nothing
  | replace owner other =>
    have gone := kept.remove other
    dsimp only [Owners.step]
    split
    · exact gone.put owner _
    · exact gone.close _
  | move owner target =>
    have gone := kept.remove owner
    dsimp only [Owners.step]
    split
    · next removed =>
      rw [removed] at gone
      exact gone.put target _
    · next removed =>
      rw [removed] at gone
      exact gone
  | giveUp owner => exact kept.remove owner
  | drop owner => exact kept.drop owner

theorem Kept.run (kept : o.Kept kind) (steps : List (OwnerStep α)) :
    (o.run kind steps).Kept kind := by
  induction steps generalizing o with
  | nil => exact kept
  | cons s steps ih => exact ih (kept.step s)

section Places

variable [DecidableEq α]

def places (o : Owners α) (raw : α) : Nat := o.held.values.count raw + o.closed.count raw

theorem closePlaces (o : Owners α) (x : α) (handle : kind.isHandle raw = true) :
    (o.close kind x).places raw = o.places raw + [x].count raw := by
  rw [places, closeHeld, closeLog, List.count_append, List.count_filter handle, places,
    Nat.add_assoc]

theorem removePlaces (kept : o.Kept kind) (owner : String) (raw : α) :
    (o.remove owner).2.places raw + (o.remove owner).1.toList.count raw = o.places raw := by
  have moved := (Table.eraseValues kept.single owner).count_eq raw
  rw [List.count_append] at moved
  simp only [places, remove]
  omega

theorem putPlaces (kept : o.Kept kind) (owner : String) (x : α) (handle : kind.isHandle raw = true) :
    (o.put kind owner x).places raw = o.places raw + [x].count raw := by
  have moved := (Table.setValues kept.single owner x).count_eq raw
  rw [List.count_append, ← List.singleton_append, List.count_append] at moved
  rw [put]
  cases found : o.held.get? owner with
  | none =>
    rw [found, Option.toList_none, List.count_nil] at moved
    simp only [places]
    omega
  | some old =>
    rw [found, Option.toList_some] at moved
    dsimp only
    rw [closePlaces _ old handle]
    simp only [places]
    omega

theorem dropPlaces (kept : o.Kept kind) (owner : String) (handle : kind.isHandle raw = true) :
    (o.drop kind owner).places raw = o.places raw := by
  have moved := removePlaces kept owner raw
  rw [drop]
  split
  · next old rest removed =>
    rw [removed, Option.toList_some] at moved
    rw [closePlaces _ old handle, moved]
  · next rest removed =>
    rw [removed, Option.toList_none, List.count_nil] at moved
    exact moved

theorem stepPlaces (kept : o.Kept kind) (s : OwnerStep α) (hollow : kind.isHandle kind.nothing = false)
    (handle : kind.isHandle raw = true) :
    (o.step kind s).places raw + (o.given s).toList.count raw =
      o.places raw + s.taken.toList.count raw := by
  have absent : [kind.nothing].count raw = 0 := by
    refine List.count_eq_zero.mpr fun inside => ?_
    rw [← List.mem_singleton.mp inside, handle] at hollow
    cases hollow
  cases s with
  | take owner x => exact putPlaces kept owner x handle
  | hollow owner =>
    have moved := putPlaces kept owner kind.nothing handle
    rwa [absent] at moved
  | replace owner other =>
    have moved := removePlaces kept other raw
    have gone := kept.remove other
    have taken : [(o.remove other).1.getD kind.nothing].count raw =
        (o.remove other).1.toList.count raw := by
      cases (o.remove other).1 with
      | none => exact absent
      | some x => rfl
    dsimp only [step]
    split
    · rw [putPlaces gone owner _ handle, taken, moved]
      rfl
    · rw [closePlaces _ _ handle, taken, moved]
      rfl
  | move owner target =>
    have moved := removePlaces kept owner raw
    have gone := kept.remove owner
    dsimp only [step]
    split
    · next x rest removed =>
      rw [removed] at moved gone
      rw [putPlaces gone target x handle]
      exact moved
    · next rest removed =>
      rw [removed] at moved
      exact moved
  | giveUp owner => exact removePlaces kept owner raw
  | drop owner => exact dropPlaces kept owner handle

theorem runPlaces (kept : o.Kept kind) (steps : List (OwnerStep α))
    (hollow : kind.isHandle kind.nothing = false) (handle : kind.isHandle raw = true) :
    (o.run kind steps).places raw + (o.givenBy kind steps).count raw =
      o.places raw + (takenBy steps).count raw := by
  induction steps generalizing o with
  | nil => rfl
  | cons s steps ih =>
    have first := stepPlaces kept s hollow handle
    have rest := ih (kept.step s)
    have added : (takenBy (s :: steps)).count raw =
        s.taken.toList.count raw + (takenBy steps).count raw := by
      cases taken : s.taken with
      | none => simp [takenBy, taken]
      | some x => simp [takenBy, taken, List.count_cons, Nat.add_comm]
    rw [run, List.foldl_cons, ← run, givenBy, List.count_append, added]
    omega

theorem runOnce {steps before : List (OwnerStep α)} (hollow : kind.isHandle kind.nothing = false)
    (once : ((takenBy steps).filter kind.isHandle).Nodup) (front : before <+: steps)
    (handle : kind.isHandle raw = true) :
    (empty.run kind before).places raw + (empty.givenBy kind before).count raw =
        (takenBy before).count raw ∧ (takenBy before).count raw ≤ 1 := by
  have moved := runPlaces (keptEmpty kind) before hollow handle
  have none : (empty : Owners α).places raw = 0 := rfl
  have fewer := (front.filterMap OwnerStep.taken).sublist.count_le raw
  have single := List.nodup_iff_count_le_one.mp once raw
  rw [List.count_filter handle] at single
  rw [none, Nat.zero_add] at moved
  exact ⟨moved, Nat.le_trans fewer single⟩

end Places

theorem dropHeld (kind : HandleKind α) (o : Owners α) (owner : String) :
    (o.drop kind owner).held = o.held.erase owner := by
  rw [drop]
  split
  · next removed =>
    rw [closeHeld, ← congrArg (fun r => r.2.held) removed]
    rfl
  · next removed =>
    rw [← congrArg (fun r => r.2.held) removed]
    rfl

theorem dropsHeld (kind : HandleKind α) (o : Owners α) (owners : List String) (owner : String) :
    (owners.foldl (drop kind) o).held.get? owner =
      if owner ∈ owners then none else o.held.get? owner := by
  induction owners generalizing o with
  | nil => simp
  | cons first owners ih =>
    rw [List.foldl_cons, ih, dropHeld, Table.getErase]
    by_cases later : owner ∈ owners
    · simp [later]
    · by_cases same : first = owner
      · simp [same]
      · simp [same, Ne.symm same, later]

theorem dropAllHeld (kind : HandleKind α) (o : Owners α) : (o.dropAll kind).held = [] := by
  have gone : ∀ owner, (o.dropAll kind).held.get? owner = none := by
    intro owner
    rw [dropAll, dropsHeld]
    split
    · rfl
    · next outside =>
      rw [List.mem_mergeSort] at outside
      exact Table.absent.mpr outside
  cases held : (o.dropAll kind).held with
  | nil => rfl
  | cons first rest =>
    have there := gone first.1
    simp [held, Table.get?] at there

theorem givenAppend (kind : HandleKind α) (o : Owners α) (steps more : List (OwnerStep α)) :
    o.givenBy kind (steps ++ more) = o.givenBy kind steps ++ (o.run kind steps).givenBy kind more := by
  induction steps generalizing o with
  | nil => rfl
  | cons s steps ih => rw [List.cons_append, givenBy, givenBy, ih, List.append_assoc]; rfl

theorem dropsGive (kind : HandleKind α) (o : Owners α) (owners : List String) :
    o.givenBy kind (owners.map .drop) = [] ∧ takenBy (α := α) (owners.map .drop) = [] := by
  induction owners generalizing o with
  | nil => exact ⟨rfl, rfl⟩
  | cons owner owners ih => exact ih _

theorem dropAllRuns (kind : HandleKind α) (steps : List (OwnerStep α)) :
    ∃ owners : List String,
      (empty.run kind steps).dropAll kind = empty.run kind (steps ++ owners.map .drop) := by
  refine ⟨(empty.run kind steps).held.keys.mergeSort fun a b => decide (a ≤ b), ?_⟩
  rw [dropAll, run, run, List.foldl_append, List.foldl_map]
  rfl

section Ends

variable [DecidableEq α] {steps before : List (OwnerStep α)}

theorem closedApart (hollow : kind.isHandle kind.nothing = false)
    (once : ((takenBy steps).filter kind.isHandle).Nodup) (front : before <+: steps) :
    (empty.run kind before).closed.Nodup ∧ ∀ raw ∈ (empty.run kind before).closed,
      kind.isHandle raw = true ∧ raw ∉ (empty.run kind before).held.values ∧
        raw ∉ empty.givenBy kind before := by
  have handles := ((keptEmpty kind).run before).handles
  refine ⟨List.nodup_iff_count_le_one.mpr fun raw => ?_, fun raw closed => ?_⟩
  · by_cases closed : raw ∈ (empty.run kind before).closed
    · obtain ⟨moved, single⟩ := runOnce hollow once front (handles raw closed)
      rw [places] at moved
      omega
    · rw [List.count_eq_zero.mpr closed]
      exact Nat.zero_le 1
  · obtain ⟨moved, single⟩ := runOnce hollow once front (handles raw closed)
    have some := List.count_pos_iff.mpr closed
    rw [places] at moved
    exact ⟨handles raw closed, List.count_eq_zero.mp (by omega), List.count_eq_zero.mp (by omega)⟩

/-- Nothing is held, and every handle that was taken is closed, once, or was given away, not both. -/
def Ended (kind : HandleKind α) (taken given : List α) (o : Owners α) : Prop :=
  o.held = [] ∧ ∀ raw ∈ taken, kind.isHandle raw = true →
    o.closed.count raw = 1 ∧ raw ∉ given ∨ raw ∉ o.closed ∧ raw ∈ given

theorem runEnded (hollow : kind.isHandle kind.nothing = false)
    (once : ((takenBy steps).filter kind.isHandle).Nodup) (gone : (empty.run kind steps).held = []) :
    Ended kind (takenBy steps) (empty.givenBy kind steps) (empty.run kind steps) := by
  refine ⟨gone, fun raw taken handle => ?_⟩
  obtain ⟨moved, single⟩ := runOnce hollow once List.prefix_rfl handle
  have present := List.count_pos_iff.mpr taken
  rw [places, gone, Table.values, List.map_nil, List.count_nil, Nat.zero_add] at moved
  by_cases closed : raw ∈ (empty.run kind steps).closed
  · have some := List.count_pos_iff.mpr closed
    exact .inl ⟨by omega, List.count_eq_zero.mp (by omega)⟩
  · have none := List.count_eq_zero.mpr closed
    exact .inr ⟨closed, List.count_pos_iff.mp (by omega)⟩

theorem dropAllEnded (hollow : kind.isHandle kind.nothing = false)
    (once : ((takenBy steps).filter kind.isHandle).Nodup) :
    Ended kind (takenBy steps) (empty.givenBy kind steps) ((empty.run kind steps).dropAll kind) := by
  have gone := dropAllHeld kind (empty.run kind steps)
  obtain ⟨owners, drops⟩ := dropAllRuns kind steps
  obtain ⟨gives, takes⟩ := dropsGive kind (empty.run kind steps) owners
  have taken : takenBy (steps ++ owners.map .drop) = takenBy steps := by
    rw [takenBy, List.filterMap_append, ← takenBy, ← takenBy, takes, List.append_nil]
  have given : empty.givenBy kind (steps ++ owners.map .drop) = empty.givenBy kind steps := by
    rw [givenAppend, gives, List.append_nil]
  rw [drops] at gone ⊢
  rw [← taken, ← given]
  exact runEnded hollow (taken.symm ▸ once) gone

/-- Whatever a program does with owners, as long as it takes every handle at most once: at every
point what is closed are handles, each once, and none of them is still held or was given away. In
the end, when the program has let all owners go or they go with it, every handle taken is closed
once or was given away. -/
theorem handlesClosedOnce (kind : HandleKind α) (steps : List (OwnerStep α))
    (hollow : kind.isHandle kind.nothing = false)
    (once : ((takenBy steps).filter kind.isHandle).Nodup) :
    (∀ before, before <+: steps →
      let o := empty.run kind before
      o.closed.Nodup ∧ ∀ raw ∈ o.closed,
        kind.isHandle raw = true ∧ raw ∉ o.held.values ∧ raw ∉ empty.givenBy kind before) ∧
      ((empty.run kind steps).held = [] →
        Ended kind (takenBy steps) (empty.givenBy kind steps) (empty.run kind steps)) ∧
      Ended kind (takenBy steps) (empty.givenBy kind steps) ((empty.run kind steps).dropAll kind) :=
  ⟨fun _ front => closedApart hollow once front, runEnded hollow once, dropAllEnded hollow once⟩

/-- Six handles on their way through three owners, one of whom replaces itself; zero is none. -/
theorem sixHandlesMoved :
    let kind : HandleKind Int := ⟨-1, fun n => n != 0 && n != -1⟩
    let steps : List (OwnerStep Int) := [.take "a" 1, .take "b" 2, .replace "a" "b", .take "b" 3,
      .move "a" "b", .giveUp "b", .take "a" 0, .hollow "c", .take "c" 4, .replace "a" "none",
      .drop "c", .take "b" 5, .replace "b" "b", .take "c" 6]
    (empty.run kind steps).closed = [1, 3, 4, 5] ∧ (empty.run kind steps).closed.Nodup ∧
      empty.givenBy kind steps = [2] ∧
      Ended kind (takenBy steps) (empty.givenBy kind steps)
        ((empty.run kind steps).dropAll kind) := by
  intro kind steps
  have once : ((takenBy steps).filter kind.isHandle).Nodup := by decide
  obtain ⟨apart, -, ended⟩ := handlesClosedOnce kind steps rfl once
  exact ⟨by decide, (apart steps List.prefix_rfl).1, by decide, ended⟩

end Ends

end Owners
end FolderWatch
