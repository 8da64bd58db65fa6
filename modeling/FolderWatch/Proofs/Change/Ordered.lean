import FolderWatch.Output.Line
import Mathlib.Data.List.Sort

/-! Sets of flags stand in the order of the flags, each flag once. The search that finds a flag's
place is right for lists in this order only, and insertion at that place keeps the order, so every
set that insertions lead to is told by its members alone. -/
namespace FolderWatch

variable {f g : Flag} {flags fs gs : List Flag}

theorem Flag.rankSame : f.rank = g.rank ↔ f = g := by
  cases f <;> cases g <;> decide

namespace FlagSet

def Ordered (flags : List Flag) : Prop := flags.Pairwise fun f g => f.rank < g.rank

/-- What a search comes to: the flag stands at the place, or the place parts the flags below it from
those above it. -/
inductive Placed (f : Flag) : List Flag → Except Nat Nat → Prop
  | there (before after : List Flag) : Placed f (before ++ f :: after) (.ok before.length)
  | between (before after : List Flag) (below : ∀ g ∈ before, g.rank < f.rank)
      (above : ∀ g ∈ after, f.rank < g.rank) : Placed f (before ++ after) (.error before.length)

theorem Placed.more {place : Except Nat Nat} (placed : Placed f fs place)
    (above : ∀ g ∈ gs, f.rank < g.rank) : Placed f (fs ++ gs) place := by
  cases placed with
  | there before after =>
    rw [List.append_assoc]
    exact .there before (after ++ gs)
  | between before after below upper =>
    rw [List.append_assoc]
    refine .between before (after ++ gs) below fun g inside => ?_
    rcases List.mem_append.mp inside with inside | inside
    · exact upper g inside
    · exact above g inside

theorem Placed.behind {place : Except Nat Nat} (placed : Placed f gs place)
    (below : ∀ g ∈ fs, g.rank < f.rank) : Placed f (fs ++ gs) (shifted fs.length place) := by
  cases placed with
  | there before after =>
    rw [shifted, ← List.append_assoc, ← List.length_append]
    exact .there (fs ++ before) after
  | between before after under above =>
    rw [shifted, ← List.append_assoc, ← List.length_append]
    refine .between (fs ++ before) after (fun g inside => ?_) above
    rcases List.mem_append.mp inside with inside | inside
    · exact below g inside
    · exact under g inside

theorem Ordered.once (ordered : Ordered flags) : flags.Nodup :=
  ordered.imp fun less same => Nat.ne_of_lt less (congrArg Flag.rank same)

theorem Ordered.around {i : Nat} (ordered : Ordered flags) (middle : flags[i]? = some g) :
    (∀ h ∈ flags.take i, h.rank < g.rank) ∧ ∀ h ∈ flags.drop i, g.rank ≤ h.rank := by
  obtain ⟨inside, rfl⟩ := List.getElem?_eq_some_iff.mp middle
  rw [Ordered, ← List.take_append_drop i flags, List.drop_eq_getElem_cons inside,
    List.pairwise_append, List.pairwise_cons] at ordered
  obtain ⟨-, ⟨above, -⟩, across⟩ := ordered
  refine ⟨fun h left => across h left _ List.mem_cons_self, fun h right => ?_⟩
  rw [List.drop_eq_getElem_cons inside] at right
  rcases List.mem_cons.mp right with rfl | right
  · exact Nat.le_refl _
  · exact Nat.le_of_lt (above h right)

theorem searchPlaced (f : Flag) (ordered : Ordered flags) : Placed f flags (search f flags) := by
  fun_induction search f flags with
  | case1 => exact .between [] [] nofun nofun
  | case2 => exact .there [] []
  | case3 g other =>
    by_cases less : g.rank < f.rank
    · rw [if_pos less]
      exact .between [g] [] (by simpa using less) nofun
    · have apart := mt Flag.rankSame.mp other
      rw [if_neg less]
      exact .between [] [g] nofun (by simp only [List.mem_singleton, forall_eq]; omega)
  | case4 g h rest all half found ih =>
    obtain ⟨mid, middle, less⟩ := (Option.any_eq_true _ _).mp found
    have right : all.drop (all.length - half) <:+ all.drop half := by
      have beyond : all.length - half = half + (all.length - half - half) := by omega
      rw [beyond, ← List.drop_drop]
      exact List.drop_suffix _ _
    have above : ∀ k ∈ all.drop (all.length - half), f.rank < k.rank := fun k inside =>
      Nat.lt_of_lt_of_le (of_decide_eq_true less)
        ((ordered.around middle).2 k (right.subset inside))
    have whole := (ih (ordered.sublist (List.take_sublist _ _))).more above
    rwa [List.take_append_drop] at whole
  | case5 g h rest all half missed ih =>
    have inside : half < all.length := by grind
    have middle : all[half]? = some all[half] := List.getElem?_eq_getElem inside
    have least : all[half].rank ≤ f.rank := by
      simpa only [middle, Option.any_some, decide_eq_true_eq, not_lt] using missed
    have below : ∀ k ∈ all.take half, k.rank < f.rank := fun k left =>
      Nat.lt_of_lt_of_le ((ordered.around middle).1 k left) least
    have whole := (ih (ordered.sublist (List.drop_sublist _ _))).behind below
    rwa [List.take_append_drop, List.length_take_of_le (Nat.le_of_lt inside)] at whole

variable {s : FlagSet}

theorem insertedBetween (f : Flag) (before after : List Flag) :
    (before ++ after).insertIdx before.length f = before ++ f :: after := by
  induction before with
  | nil => rfl
  | cons g before ih => simp [ih]

theorem inserted (ordered : Ordered s.toList) (f : Flag) :
    Ordered (s.insert f).toList ∧ ∀ g, g ∈ (s.insert f).toList ↔ g = f ∨ g ∈ s.toList := by
  have placed := searchPlaced f ordered
  obtain ⟨flags⟩ := s
  rw [insert]
  generalize search f flags = place at placed ⊢
  cases placed with
  | there before after =>
    refine ⟨ordered, fun g => ⟨.inr, ?_⟩⟩
    rintro (rfl | inside)
    · exact List.mem_append_right _ List.mem_cons_self
    · exact inside
  | between before after below above =>
    change Ordered ((before ++ after).insertIdx before.length f) ∧
      ∀ g, g ∈ (before ++ after).insertIdx before.length f ↔ g = f ∨ g ∈ before ++ after
    rw [insertedBetween]
    refine ⟨?_, fun g => by simp [or_left_comm]⟩
    obtain ⟨left, right, across⟩ := List.pairwise_append.mp ordered
    refine List.pairwise_append.mpr ⟨left, List.pairwise_cons.mpr ⟨above, right⟩, ?_⟩
    intro g inside h member
    rcases List.mem_cons.mp member with rfl | member
    · exact below g inside
    · exact across g inside h member

theorem insertedAll (ordered : Ordered s.toList) (fs : List Flag) :
    Ordered (fs.foldl insert s).toList ∧
      ∀ g, g ∈ (fs.foldl insert s).toList ↔ g ∈ s.toList ∨ g ∈ fs := by
  induction fs generalizing s with
  | nil => exact ⟨ordered, fun g => by simp⟩
  | cons f fs ih =>
    obtain ⟨once, members⟩ := inserted ordered f
    obtain ⟨all, later⟩ := ih once
    refine ⟨all, fun g => ?_⟩
    rw [List.foldl_cons, later, members, List.mem_cons, or_assoc, or_left_comm]

theorem built (first later : List Flag) : Ordered (later.foldl insert (ofList first)).toList ∧
    ∀ f, f ∈ (later.foldl insert (ofList first)).toList ↔ f ∈ first ∨ f ∈ later := by
  obtain ⟨start, given⟩ := insertedAll (s := empty) .nil first
  obtain ⟨ordered, members⟩ := insertedAll start later
  refine ⟨ordered, fun f => ?_⟩
  rw [ofList, members, given]
  simp [empty]

theorem containsIff (ordered : Ordered s.toList) : s.contains f = true ↔ f ∈ s.toList := by
  have placed := searchPlaced f ordered
  obtain ⟨flags⟩ := s
  rw [contains]
  generalize search f flags = place at placed ⊢
  cases placed with
  | there before after => simp [Except.isOk, Except.toBool]
  | between before after below above =>
    have outside : f ∉ before ++ after := fun inside => by
      rcases List.mem_append.mp inside with inside | inside
      · exact Nat.lt_irrefl _ (below f inside)
      · exact Nat.lt_irrefl _ (above f inside)
    simp [Except.isOk, Except.toBool, outside]

theorem orderedSame (one : Ordered fs) (other : Ordered gs) (same : ∀ f, f ∈ fs ↔ f ∈ gs) :
    fs = gs := by
  have perm := (List.perm_ext_iff_of_nodup one.once other.once).mpr same
  exact perm.eq_of_pairwise (fun f g _ _ less more => absurd less (Nat.lt_asymm more)) one other

theorem allOrdered : Ordered Flag.all := by
  unfold Ordered
  decide

theorem everyFlag (f : Flag) : f ∈ Flag.all := by
  cases f <;> decide

theorem nameQuoted (f : Flag) : Json.quote f.name = "\"" ++ f.name ++ "\"" := by
  cases f <;> decide

/-- However a set was built and whatever was put in later, in any order and however often, it holds
what was put in, each flag once and in the order of the flags; sets with the same flags are equal.
It is listed, shown and written as an array in that order. -/
theorem setsCanonical (first later : List Flag) :
    let s := later.foldl insert (ofList first)
    let put := Flag.all.filter fun f => f ∈ first ∨ f ∈ later
    s.toList.Pairwise (fun f g => f.rank < g.rank) ∧
      (∀ f, s.contains f = true ↔ f ∈ first ∨ f ∈ later) ∧
      (∀ second further : List Flag, s = further.foldl insert (ofList second) ↔
        ∀ f, (f ∈ first ∨ f ∈ later ↔ f ∈ second ∨ f ∈ further)) ∧
      s.toList = put ∧ s.text = " ".intercalate (put.map Flag.name) ∧
      s.json = "[" ++ ",".intercalate (put.map fun f => "\"" ++ f.name ++ "\"") ++ "]" := by
  intro s put
  obtain ⟨ordered, members⟩ := built first later
  have listed : s.toList = put :=
    orderedSame ordered (allOrdered.filter _) fun f => by simp [s, put, members, everyFlag]
  refine ⟨ordered, fun f => (containsIff ordered).trans (members f), fun second further => ?_,
    listed, by rw [text, names, listed], ?_⟩
  · obtain ⟨otherOrdered, otherMembers⟩ := built second further
    constructor
    · intro same f
      rw [← members, ← otherMembers, ← same]
    · intro same
      exact congrArg mk (orderedSame ordered otherOrdered fun f => by
        rw [members, otherMembers, same])
  · have quoted : Json.quote ∘ Flag.name = fun f => "\"" ++ f.name ++ "\"" := funext nameQuoted
    rw [json, names, listed, List.map_map, quoted]

end FlagSet
end FolderWatch
