import FolderWatch.Proofs.Path
import Mathlib.Data.List.DropRight

/-! The way up from a path below a folder, and further down from it. Its segments are those of the
path without what names nothing at the ends; the next path up is put together from the segments
before the last name, and a longer path adds segments behind them. -/
namespace FolderWatch.Path

variable {p s t root path below : List UInt8} {first : Bool}
  {ns ss tt front rest : List (List UInt8)}

theorem splitWhole (flat : slash ∉ s) : split s = [s] := by
  induction s with
  | nil => rfl
  | cons x s ih =>
    have apart : x ≠ slash := fun same => flat (same ▸ List.mem_cons_self)
    exact splitOther apart (ih fun inside => flat (List.mem_cons_of_mem _ inside))

theorem splitFlat (p : List UInt8) : ∀ s ∈ split p, slash ∉ s := by
  induction p with
  | nil => simp [split]
  | cons x p ih =>
    cases cut : split p with
    | nil => exact absurd cut (splitSome p)
    | cons t ss =>
      rw [cut] at ih
      by_cases separator : x = slash
      · rw [separator, splitSlash, cut]
        simpa using ih
      · rw [splitOther separator cut]
        simpa [Ne.symm separator] using ih

theorem joinCons (s : List UInt8) (filled : ss ≠ []) : join (s :: ss) = s ++ slash :: join ss := by
  cases ss with
  | nil => exact absurd rfl filled
  | cons t ss => rfl

theorem joinAppend (filled : ss ≠ []) (some : tt ≠ []) :
    join (ss ++ tt) = join ss ++ slash :: join tt := by
  induction ss with
  | nil => exact absurd rfl filled
  | cons s ss ih =>
    cases ss with
    | nil => exact joinCons s some
    | cons t ss =>
      have more : t :: ss ++ tt ≠ [] := List.cons_ne_nil _ _
      rw [List.cons_append, joinCons s more, ih (List.cons_ne_nil _ _),
        joinCons s (List.cons_ne_nil _ _), List.append_assoc]
      rfl

theorem splitJoin (filled : ss ≠ []) (flat : ∀ s ∈ ss, slash ∉ s) : split (join ss) = ss := by
  induction ss with
  | nil => exact absurd rfl filled
  | cons s ss ih =>
    have first := splitWhole (flat s List.mem_cons_self)
    cases ss with
    | nil => exact first
    | cons t ss =>
      have others := ih (List.cons_ne_nil _ _) fun u inside => flat u (List.mem_cons_of_mem _ inside)
      rw [joinCons s (List.cons_ne_nil _ _), splitAppend, first, others, List.singleton_append]

theorem joinLength (ss : List (List UInt8)) : ss.length ≤ (join ss).length + 1 := by
  induction ss with
  | nil => exact Nat.zero_le _
  | cons s ss ih =>
    cases ss with
    | nil => simp
    | cons t ss =>
      rw [joinCons s (List.cons_ne_nil _ _), List.length_append, List.length_cons]
      simp only [List.length_cons] at ih ⊢
      omega

theorem joinLast (filled : s ≠ []) (ss : List (List UInt8)) :
    (join (ss ++ [s])).getLast? = s.getLast? := by
  induction ss with
  | nil => rfl
  | cons t ss ih =>
    have more : ss ++ [s] ≠ [] := by simp
    have tail : slash :: join (ss ++ [s]) ≠ [] := List.cons_ne_nil _ _
    rw [List.cons_append, joinCons t more, List.getLast?_append_of_ne_nil _ tail,
      List.getLast?_cons, ih]
    cases ends : s.getLast? with
    | none => exact absurd (List.getLast?_eq_none_iff.mp ends) filled
    | some x => rfl

structure Trimmed (ss : List (List UInt8)) : Prop where
  flat : ∀ s ∈ ss, slash ∉ s
  first : ∀ s ∈ ss.head?, isFiller s = false
  last : ∀ s ∈ ss.getLast?, isFiller s = false

theorem trimFillers (fillers : ∀ s ∈ tt, isFiller s = true) (ss : List (List UInt8)) :
    dropLastFillers (ss ++ tt) = dropLastFillers ss := by
  rw [dropLastFillers, List.reverse_append,
    List.dropWhile_append_of_pos fun s inside => fillers s (List.mem_reverse.mp inside)]
  rfl

theorem trimNamed (named : ∃ s ∈ tt, isFiller s = false) (ss : List (List UInt8)) :
    dropLastFillers (ss ++ tt) = ss ++ dropLastFillers tt := by
  obtain ⟨s, inside, name⟩ := named
  have stays : ¬ (tt.reverse.dropWhile isFiller).isEmpty := by
    intro empty
    have filler := List.dropWhile_eq_nil_iff.mp (List.isEmpty_iff.mp empty) s
      (List.mem_reverse.mpr inside)
    simp [name] at filler
  rw [dropLastFillers, List.reverse_append, List.dropWhile_append, if_neg stays,
    List.reverse_append, List.reverse_reverse]
  rfl

theorem trimLast (ss : List (List UInt8)) :
    ∀ s ∈ (dropLastFillers ss).getLast?, isFiller s = false := by
  intro s ends
  have stops := List.head?_dropWhile_not isFiller ss.reverse
  rw [dropLastFillers, List.getLast?_reverse, Option.mem_def] at ends
  rw [ends] at stops
  exact stops

theorem trimWhole (last : ∀ s ∈ ss.getLast?, isFiller s = false) : dropLastFillers ss = ss := by
  rcases List.eq_nil_or_concat ss with rfl | ⟨front, s, rfl⟩
  · rfl
  · rw [List.concat_eq_append] at last ⊢
    exact List.rdropWhile_concat_neg isFiller front s (by simp [last s])

theorem trimAppend (last : ∀ s ∈ front.getLast?, isFiller s = false)
    (rest : List (List UInt8)) : dropLastFillers (front ++ rest) = front ++ dropLastFillers rest := by
  by_cases named : ∃ s ∈ rest, isFiller s = false
  · exact trimNamed named front
  · have fillers : ∀ s ∈ rest, isFiller s = true := by simpa using named
    have nothing : dropLastFillers rest = [] := trimFillers fillers []
    rw [trimFillers fillers front, trimWhole last, nothing, List.append_nil]

theorem trimPrefix (ss : List (List UInt8)) : dropLastFillers ss <+: ss :=
  List.rdropWhile_prefix isFiller ss

theorem trimmedEnds (flat : ∀ s ∈ ss, slash ∉ s) : Trimmed (dropLastFillers (dropFillers ss)) := by
  obtain ⟨fillers, whole⟩ := trimPrefix (dropFillers ss)
  refine ⟨fun s inside => ?_, fun s head => ?_, trimLast _⟩
  · have kept : s ∈ dropFillers ss := whole ▸ List.mem_append_left _ inside
    exact flat s ((List.dropWhile_suffix _).subset kept)
  · have stops := List.head?_dropWhile_not isFiller ss
    have opens : (dropFillers ss).head? = some s := by
      rw [← whole, List.head?_append, head]
      rfl
    rw [dropFillers] at opens
    rw [opens] at stops
    exact stops

theorem trimMore (some : dropLastFillers (dropFillers ss) ≠ []) (tt : List (List UInt8)) :
    ∃ more, dropLastFillers (dropFillers (ss ++ tt)) = dropLastFillers (dropFillers ss) ++ more ∧
      (more = [] ↔ ∀ s ∈ tt, isFiller s = true) := by
  obtain ⟨fillers, whole⟩ := trimPrefix (dropFillers ss)
  have named : ¬ (ss.dropWhile isFiller).isEmpty := by
    intro nothing
    rw [dropFillers, List.isEmpty_iff.mp nothing] at some
    exact some rfl
  have all : ∀ s ∈ fillers, isFiller s = true := by
    have again := trimAppend (trimLast (dropFillers ss)) fillers
    rw [whole, List.self_eq_append_right] at again
    exact List.rdropWhile_eq_nil_iff.mp again
  refine ⟨dropLastFillers (fillers ++ tt), ?_, ?_⟩
  · rw [← trimAppend (trimLast _), ← List.append_assoc, whole, dropFillers, dropFillers,
      List.dropWhile_append, if_neg named]
  · have nothing : dropLastFillers (fillers ++ tt) = [] ↔ ∀ s ∈ fillers ++ tt, isFiller s = true :=
      List.rdropWhile_eq_nil_iff
    rw [nothing, List.forall_mem_append]
    exact and_iff_right all

theorem settledNamed (first : ∀ s ∈ ss.head?, isFiller s = false) :
    settled ss = dropLastFillers ss := by
  cases ss with
  | nil => rfl
  | cons s ss =>
    have name : isFiller s = false := first s rfl
    rw [settled]
    by_cases named : ∃ t ∈ ss, isFiller t = false
    · exact (trimNamed named [s]).symm
    · have fillers : ∀ t ∈ ss, isFiller t = true := by simpa using named
      have rest : dropLastFillers ss = [] := trimFillers fillers []
      have only : dropLastFillers [s] = [s] := trimWhole (by simpa using name)
      rw [rest, ← only]
      exact (trimFillers fillers [s]).symm

theorem Trimmed.start (trim : Trimmed ss) (some : ss ≠ []) :
    join ss ≠ [] ∧ ∀ s ∈ (split (join ss)).head?, isFiller s = false := by
  have cut := splitJoin some trim.flat
  refine ⟨fun empty => ?_, fun s head => trim.first s (cut ▸ head)⟩
  rw [empty] at cut
  cases trim.first [] (by rw [← cut]; rfl)

theorem Trimmed.up (trim : Trimmed (ss ++ [s])) : Trimmed (dropLastFillers ss) := by
  have front := trimPrefix ss
  refine ⟨fun t inside => trim.flat t (List.mem_append_left _ (front.subset inside)), ?_, trimLast ss⟩
  intro t head
  obtain ⟨rest, whole⟩ := front
  apply trim.first t
  rw [← whole, List.append_assoc, List.head?_append, head]
  rfl

theorem parentJoined (trim : Trimmed (ss ++ [s])) :
    parent? (join (ss ++ [s])) = some (join (dropLastFillers ss)) := by
  have name : isFiller s = false := trim.last s (by simp)
  have segments : settled (split (join (ss ++ [s]))) = ss ++ [s] := by
    rw [splitJoin (by simp) trim.flat, settledNamed trim.first, trimWhole trim.last]
  have backwards : (ss ++ [s]).reverse = s :: ss.reverse := by simp
  rw [parent?, segments, backwards]
  cases ss with
  | nil =>
    have filled : s.isEmpty = false := by
      cases s with
      | nil => cases name
      | cons x s => rfl
    simp [filled, dropLastFillers, join]
  | cons t ss =>
    have above := trim.up
    have head : isFiller t = false := trim.first t rfl
    obtain ⟨u, us, reversed⟩ := List.exists_cons_of_ne_nil
      (List.reverse_ne_nil_iff.mpr (List.cons_ne_nil t ss))
    have before : settled (u :: us).reverse = dropLastFillers (t :: ss) := by
      rw [← reversed, List.reverse_reverse, settledNamed]
      simpa using head
    rw [reversed]
    simp only [before]
    split
    · next single =>
      have filler := above.first [] (by rw [single]; rfl)
      cases filler
    · rfl

/-- A beginning of segments that is a folder above them: something follows, and it ends in a name
or is the watched folder itself. -/
structure Above (front ss : List (List UInt8)) : Prop where
  shorter : ∃ rest, rest ≠ [] ∧ ss = front ++ rest
  last : ∀ s ∈ front.getLast?, isFiller s = false

@[simp] theorem aboveNothing : ¬ Above front [] := by
  rintro ⟨⟨rest, filled, whole⟩, -⟩
  exact filled (List.append_eq_nil_iff.mp whole.symm).2

theorem aboveSnoc :
    Above front (ss ++ [s]) ↔ front = dropLastFillers ss ∨ Above front (dropLastFillers ss) := by
  obtain ⟨fillers, trimmed⟩ := trimPrefix ss
  constructor
  · rintro ⟨⟨rest, filled, whole⟩, last⟩
    rcases List.eq_nil_or_concat rest with rfl | ⟨middle, t, rfl⟩
    · exact absurd rfl filled
    · rw [List.concat_eq_append, ← List.append_assoc] at whole
      obtain ⟨rfl, -⟩ := List.append_inj' whole rfl
      rw [trimAppend last]
      -- The beginning is the next one up if only fillers follow it, and lies above that otherwise.
      by_cases direct : dropLastFillers middle = []
      · exact .inl (by rw [direct, List.append_nil])
      · exact .inr ⟨⟨_, direct, rfl⟩, last⟩
  · rintro (rfl | ⟨⟨rest, filled, whole⟩, last⟩)
    · exact ⟨⟨fillers ++ [s], by simp, by rw [← List.append_assoc, trimmed]⟩, trimLast ss⟩
    · refine ⟨⟨rest ++ fillers ++ [s], by simp, ?_⟩, last⟩
      rw [← trimmed, whole]
      simp

theorem Above.further (higher : Above front ss) (tt : List (List UInt8)) : Above front (ss ++ tt) := by
  obtain ⟨⟨rest, filled, rfl⟩, last⟩ := higher
  exact ⟨⟨rest ++ tt, by simp [filled], List.append_assoc ..⟩, last⟩

theorem behindOn (found : behind first ns ss = some rest) (tt : List (List UInt8)) :
    behind first ns (ss ++ tt) = some (rest ++ tt) := by
  fun_induction behind first ns ss with
  | case1 =>
    cases found
    simp only [behind]
  | case3 _ _ _ _ _ filler ih =>
    have further := ih found
    simp only [List.cons_append, behind, filler, if_true, further]
  | case4 _ _ _ _ name ih =>
    have further := ih found
    rw [List.cons_append, behind, if_neg name, if_pos rfl, further]
  | _ => cases found

theorem behindSuffix (found : behind first ns ss = some rest) : rest <:+ ss := by
  fun_induction behind first ns ss with
  | case1 =>
    cases found
    exact List.suffix_rfl
  | case3 _ _ _ s _ _ ih => exact (ih found).trans (List.suffix_cons s _)
  | case4 _ _ s _ _ ih => exact (ih found).trans (List.suffix_cons s _)
  | _ => cases found

/-- The segments below a folder are those of the path seen there; a longer path has more of them, or
the same if it goes on with fillers only. -/
theorem belowFurther (rooted : root ≠ []) (found : below? root path = some below)
    (filled : below ≠ []) (further : List UInt8) :
    ∃ ss tt, Trimmed ss ∧ Trimmed (ss ++ tt) ∧ below = join ss ∧
      below? root (path ++ slash :: further) = some (join (ss ++ tt)) ∧
        (tt = [] ↔ ∀ s ∈ split further, isFiller s = true) := by
  rw [belowNamed rooted, Option.map_eq_some_iff] at found
  obtain ⟨left, there, rfl⟩ := found
  have kept : dropLastFillers (dropFillers left) ≠ [] := by
    intro nothing
    rw [nothing] at filled
    exact filled rfl
  have flat : ∀ s ∈ left ++ split further, slash ∉ s := by
    intro s inside
    rcases List.mem_append.mp inside with own | later
    · exact splitFlat path s ((behindSuffix there).subset own)
    · exact splitFlat further s later
  obtain ⟨tt, whole, same⟩ := trimMore kept (split further)
  have trim := trimmedEnds fun s own => flat s (List.mem_append_left _ own)
  have trimFurther := trimmedEnds flat
  rw [whole] at trimFurther
  refine ⟨_, tt, trim, trimFurther, rfl, ?_, same⟩
  rw [belowNamed rooted, splitAppend, behindOn there, Option.map_some, whole]

end FolderWatch.Path
