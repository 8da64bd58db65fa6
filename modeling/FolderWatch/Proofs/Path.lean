import FolderWatch.Path
import Mathlib.Data.List.Basic

/-! Paths that are put together segment by segment. What lies below a folder is found again behind
the folder's own names, however the folder is spelled, and a parent is no longer than its child. -/
namespace FolderWatch.Path

variable {a b p q root path n : List UInt8} {s last first : List UInt8}
  {ss tt rest init : List (List UInt8)}

/-- Every segment of the path names something. -/
def Plain (n : List UInt8) : Prop := ∀ s ∈ split n, isFiller s = false

instance (n : List UInt8) : Decidable (Plain n) :=
  inferInstanceAs (Decidable (∀ s ∈ split n, isFiller s = false))

theorem plainFilled (plain : Plain n) : n ≠ [] := by
  rintro rfl
  cases plain [] List.mem_cons_self

theorem absoluteFilled (absolute : isAbsolute root = true) : root ≠ [] := by
  rintro rfl
  cases absolute

theorem splitSome (p : List UInt8) : split p ≠ [] := by
  cases p with
  | nil => exact List.cons_ne_nil _ _
  | cons x p =>
    simp only [split]
    split
    · exact List.cons_ne_nil _ _
    · split <;> exact List.cons_ne_nil _ _

theorem splitLast (p : List UInt8) : ∃ init last, split p = init ++ [last] :=
  ⟨_, _, (List.dropLast_append_getLast (splitSome p)).symm⟩

theorem splitSlash (p : List UInt8) : split (slash :: p) = [] :: split p := by
  simp only [split, if_true]

theorem splitOther {x : UInt8} (other : x ≠ slash) (cut : split p = s :: ss) :
    split (x :: p) = (x :: s) :: ss := by
  simp only [split, other, if_false, cut]

theorem splitMerge (left : split a = init ++ [last]) (right : split b = first :: rest) :
    split (a ++ b) = init ++ (last ++ first) :: rest := by
  induction a generalizing init last with
  | nil =>
    have only : [] ++ [[]] = init ++ [last] := left
    obtain ⟨rfl, same⟩ := List.append_inj' only rfl
    cases same
    exact right
  | cons x a ih =>
    obtain ⟨before, final, cut⟩ := splitLast a
    have merged := ih cut
    by_cases separator : x = slash
    · subst separator
      rw [splitSlash, cut, ← List.cons_append] at left
      obtain ⟨rfl, same⟩ := List.append_inj' left rfl
      cases same
      rw [List.cons_append, splitSlash, merged, List.cons_append]
    · cases before with
      | nil =>
        rw [splitOther separator cut] at left
        have only : [] ++ [x :: final] = init ++ [last] := left
        obtain ⟨rfl, same⟩ := List.append_inj' only rfl
        cases same
        rw [List.cons_append, splitOther separator merged]
        rfl
      | cons s before =>
        rw [List.cons_append] at cut
        rw [splitOther separator cut, ← List.cons_append] at left
        obtain ⟨rfl, same⟩ := List.append_inj' left rfl
        cases same
        rw [List.cons_append, splitOther separator merged]
        rfl

theorem splitAppend (a b : List UInt8) : split (a ++ slash :: b) = split a ++ split b := by
  obtain ⟨init, last, cut⟩ := splitLast a
  rw [splitMerge cut (splitSlash b), List.append_nil, cut, List.append_assoc]
  rfl

theorem joinGrown (x : UInt8) (s : List UInt8) (ss : List (List UInt8)) :
    join ((x :: s) :: ss) = x :: join (s :: ss) := by
  cases ss <;> rfl

theorem joinSplit (p : List UInt8) : join (split p) = p := by
  induction p with
  | nil => rfl
  | cons x p ih =>
    cases cut : split p with
    | nil => exact absurd cut (splitSome p)
    | cons s ss =>
      rw [cut] at ih
      by_cases separator : x = slash
      · rw [separator, splitSlash, cut]
        exact congrArg (slash :: ·) ih
      · rw [splitOther separator cut, joinGrown, ih]

theorem namesOf (filled : root ≠ []) (cut : split root = s :: ss) :
    names root = s :: ss.filter (!isFiller ·) := by
  simp only [names, cut]
  split
  · next empty =>
    split
    · next only =>
      -- One empty segment is all of the empty path.
      rw [List.isEmpty_iff] at empty only
      have joined := joinSplit root
      rw [cut, empty, only] at joined
      exact absurd joined.symm filled
    · rfl
  · rfl

theorem fillerSkipped (filler : isFiller s = true) (x : List UInt8) (names : List (List UInt8)) :
    behind false (x :: names) (s :: ss) = behind false (x :: names) ss := by
  simp only [behind, filler, Bool.not_false, Bool.and_self, if_true]

theorem nameMatched (name : isFiller s = false) (names : List (List UInt8)) :
    behind false (s :: names) (s :: ss) = behind false names ss := by
  simp only [behind, name, Bool.false_and, Bool.false_eq_true, if_false, if_true]

theorem behindOwn (ss tail : List (List UInt8)) :
    ∃ fillers, (∀ s ∈ fillers, isFiller s = true) ∧
      behind false (ss.filter (!isFiller ·)) (ss ++ tail) = some (fillers ++ tail) := by
  induction ss with
  | nil => exact ⟨[], fun s inside => (nomatch inside), by simp only [List.filter_nil, behind]⟩
  | cons s ss ih =>
    obtain ⟨fillers, all, left⟩ := ih
    cases filler : isFiller s with
    | false =>
      refine ⟨fillers, all, ?_⟩
      rw [List.filter_cons_of_pos (by rw [filler]; rfl), List.cons_append, nameMatched filler, left]
    | true =>
      rw [List.filter_cons_of_neg (by rw [filler]; decide)]
      cases names : ss.filter (!isFiller ·) with
      | cons x names =>
        refine ⟨fillers, all, ?_⟩
        rw [List.cons_append, fillerSkipped filler, ← names, left]
      | nil =>
        refine ⟨s :: ss, ?_, by simp only [behind]⟩
        intro t inside
        rcases List.mem_cons.mp inside with rfl | later
        · exact filler
        · simpa using List.filter_eq_nil_iff.mp names t later

theorem behindOther {x : List UInt8} (name : isFiller x = false) (other : x ≠ last)
    (named : isFiller last = false) (ss rest : List (List UInt8)) :
    behind false ((ss ++ [last]).filter (!isFiller ·)) (ss ++ x :: rest) = none := by
  induction ss with
  | nil =>
    rw [List.nil_append, List.filter_cons_of_pos (by rw [named]; rfl)]
    simp only [List.filter_nil, List.nil_append, behind, name, Bool.false_and, Bool.false_eq_true,
      if_false, other]
  | cons s ss ih =>
    cases filler : isFiller s with
    | false =>
      rw [List.cons_append, List.filter_cons_of_pos (by rw [filler]; rfl), List.cons_append,
        nameMatched filler, ih]
    | true =>
      rw [List.cons_append, List.filter_cons_of_neg (by rw [filler]; decide)]
      cases names : (ss ++ [last]).filter (!isFiller ·) with
      | nil =>
        rw [List.filter_append, List.filter_cons_of_pos (by rw [named]; rfl)] at names
        exact absurd names (by simp)
      | cons y names =>
        rw [List.cons_append, fillerSkipped filler, ← names, ih]

theorem keepNames {ss : List (List UInt8)} (names : ∀ s ∈ ss, isFiller s = false) :
    dropFillers ss = ss ∧ dropLastFillers ss = ss := by
  have kept : ∀ tt : List (List UInt8), (∀ s ∈ tt, isFiller s = false) →
      tt.dropWhile isFiller = tt := by
    intro tt names
    cases tt with
    | nil => rfl
    | cons s tt => exact List.dropWhile_cons_of_neg (by rw [names s List.mem_cons_self]; decide)
  refine ⟨kept ss names, ?_⟩
  rw [dropLastFillers, kept _ fun s inside => names s (List.mem_reverse.mp inside),
    List.reverse_reverse]

theorem belowNamed (filled : root ≠ []) (path : List UInt8) : below? root path =
    (behind true (names root) (split path)).map fun ss => join (dropLastFillers (dropFillers ss)) := by
  rw [below?, if_neg (by simpa using filled)]

theorem belowFound (filled : root ≠ []) (named : names root = s :: ss.filter (!isFiller ·))
    (cut : split path = s :: (ss ++ split n)) (plain : Plain n) :
    below? root path = some n := by
  obtain ⟨fillers, all, left⟩ := behindOwn ss (split n)
  have found : behind true (names root) (split path) = some (fillers ++ split n) := by
    rw [named, cut, ← left]
    simp only [behind, Bool.not_true, Bool.and_false, Bool.false_eq_true, if_false, if_true]
  obtain ⟨front, back⟩ := keepNames plain
  have bare : dropFillers (fillers ++ split n) = split n :=
    (List.dropWhile_append_of_pos all).trans front
  rw [belowNamed filled, found, Option.map_some, bare, back, joinSplit]

theorem belowJoined (filled : root ≠ []) (plain : Plain n) :
    below? root (root ++ slash :: n) = some n := by
  cases cut : split root with
  | nil => exact absurd cut (splitSome root)
  | cons s ss =>
    apply belowFound filled (namesOf filled cut) _ plain
    rw [splitAppend, cut, List.cons_append]

theorem belowTrailing (plain : Plain n) :
    below? (p ++ [slash]) (p ++ slash :: n) = some n := by
  cases cut : split p with
  | nil => exact absurd cut (splitSome p)
  | cons s ss =>
    have whole : split (p ++ [slash]) = s :: (ss ++ [[]]) := by
      rw [splitAppend, cut]
      rfl
    have named := namesOf (by simp) whole
    rw [List.filter_append, show [[]].filter (!isFiller ·) = [] from rfl, List.append_nil] at named
    apply belowFound (by simp) named _ plain
    rw [splitAppend, cut, List.cons_append]

theorem longNamed (long : 1 < s.length) : isFiller s = false := by
  cases s with
  | nil => simp at long
  | cons x s =>
    cases s with
    | nil => simp at long
    | cons y s => simp [isFiller]

theorem endNamed {x : UInt8} (other : x ≠ dot) (s : List UInt8) :
    isFiller (s ++ [x]) = false := by
  cases s with
  | nil => simp [isFiller, other]
  | cons y s => exact longNamed (by simp)

/-- A name that goes on where the folder's last name ends lies elsewhere. -/
theorem belowMerged {x : UInt8} (separate : x ≠ slash) (visible : x ≠ dot) (plain : Plain n) :
    below? (p ++ [x]) (p ++ [x] ++ n) = none := by
  obtain ⟨init, tip, cutP⟩ := splitLast p
  have single : split [x] = [[x]] := splitOther separate rfl
  have cut : split (p ++ [x]) = init ++ [tip ++ [x]] := splitMerge cutP single
  cases cutN : split n with
  | nil => exact absurd cutN (splitSome n)
  | cons first rest =>
    have filled : first ≠ [] := by
      rintro rfl
      cases plain [] (cutN ▸ List.mem_cons_self)
    have whole := splitMerge cut cutN
    have other : tip ++ [x] ++ first ≠ tip ++ [x] := by
      simpa using filled
    have name : isFiller (tip ++ [x] ++ first) = false := by
      have some := List.length_pos_iff.mpr filled
      apply longNamed
      simp only [List.length_append, List.length_singleton]
      omega
    have nothing : behind true (names (p ++ [x])) (split (p ++ [x] ++ n)) = none := by
      cases init with
      | nil =>
        rw [namesOf (by simp) cut, whole]
        simp only [List.filter_nil, List.nil_append, behind, Bool.not_true, Bool.and_false,
          Bool.false_eq_true, if_false, other]
      | cons s init =>
        rw [namesOf (by simp) cut, whole, List.cons_append]
        simp only [behind, Bool.not_true, Bool.and_false, Bool.false_eq_true, if_false, if_true]
        exact behindOther name other (endNamed visible tip) init rest
    rw [belowNamed (by simp), nothing, Option.map_none]

theorem joinLonger (filled : ss ≠ []) (t : List UInt8) (tt : List (List UInt8)) :
    (join ss).length < (join (ss ++ t :: tt)).length := by
  induction ss with
  | nil => exact absurd rfl filled
  | cons s ss ih =>
    cases ss with
    | nil =>
      simp only [join, List.singleton_append, List.length_append, List.length_cons]
      omega
    | cons u ss =>
      have longer := ih (List.cons_ne_nil _ _)
      simp only [List.cons_append] at longer
      simp only [join, List.cons_append, List.length_append, List.length_cons]
      omega

theorem joinPrefix (front : ss <+: tt) : (join ss).length ≤ (join tt).length := by
  obtain ⟨rest, rfl⟩ := front
  cases ss with
  | nil => exact Nat.zero_le _
  | cons s ss =>
    cases rest with
    | nil => exact Nat.le_of_eq (by rw [List.append_nil])
    | cons t rest => exact Nat.le_of_lt (joinLonger (List.cons_ne_nil _ _) t rest)

theorem settledPrefix (ss : List (List UInt8)) : settled ss <+: ss := by
  cases ss with
  | nil => exact List.prefix_rfl
  | cons s rest =>
    rw [settled, dropLastFillers, List.prefix_cons_inj, ← List.reverse_suffix,
      List.reverse_reverse]
    exact List.dropWhile_suffix _

theorem parentShorter (found : parent? p = some q) : q.length ≤ p.length := by
  unfold parent? at found
  split at found
  · cases found
  · split at found
    · cases found
    · cases found
      exact Nat.zero_le _
  · next last before several backwards =>
    have filled : before.reverse ≠ [] := by
      intro empty
      exact several (List.reverse_eq_nil_iff.mp empty)
    have front : before.reverse ++ [last] <+: split p := by
      rw [← List.reverse_cons, ← backwards, List.reverse_reverse]
      exact settledPrefix (split p)
    have shorter : (join before.reverse).length < p.length :=
      calc (join before.reverse).length
          < (join (before.reverse ++ [last])).length := joinLonger filled last []
        _ ≤ (join (split p)).length := joinPrefix front
        _ = p.length := by rw [joinSplit]
    split at found
    · cases found
      rw [List.length_singleton]
      omega
    · cases found
      exact Nat.le_trans (joinPrefix (settledPrefix before.reverse)) (Nat.le_of_lt shorter)

end FolderWatch.Path
