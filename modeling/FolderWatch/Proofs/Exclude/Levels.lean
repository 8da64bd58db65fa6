import FolderWatch.Exclude.Rule
import FolderWatch.Proofs.Path.Parents

/-! Rules are asked about a path and then about the folders above it, and the first answer counts.
Rules that come last outvote those before them at every level, so that rules that only drop can
only make the list drop more, and rules that only take back can only make it drop less. -/
namespace FolderWatch.Exclude.Rule

open FolderWatch.Path (Above Trimmed join)

variable {rules more : List Rule} {rule : Rule} {path q : List UInt8}
  {isFolder one other : Bool} {ss tt : List (List UInt8)} {fuel : Nat}

def levels (path : List UInt8) (isFolder : Bool) : List (List UInt8 × Bool) :=
  (path, isFolder) :: (above (path.length + 1) path).map (·, true)

def answer? (rules : List Rule) (asked : List (List UInt8 × Bool)) : Option Bool :=
  asked.findSome? fun l => verdict? rules l.1 l.2

theorem answerCons (rules : List Rule) (l : List UInt8 × Bool) (asked : List (List UInt8 × Bool)) :
    answer? rules (l :: asked) = (verdict? rules l.1 l.2).or (answer? rules asked) := by
  rw [answer?, List.findSome?_cons]
  cases verdict? rules l.1 l.2 <;> rfl

theorem dropsIff : drops rules path isFolder = true ↔
    answer? rules (levels path isFolder) = some true := by
  have further : answer? rules ((above (path.length + 1) path).map (·, true)) =
      (above (path.length + 1) path).findSome? (verdict? rules · true) := List.findSome?_map
  rw [levels, answerCons, further, drops]
  cases verdict? rules path isFolder with
  | none => cases (above (path.length + 1) path).findSome? (verdict? rules · true) <;> simp
  | some b => simp

theorem verdictMore (rules more : List Rule) (path : List UInt8) (isFolder : Bool) :
    verdict? (rules ++ more) path isFolder =
      (verdict? more path isFolder).or (verdict? rules path isFolder) := by
  simp only [verdict?, List.reverse_append, List.find?_append, Option.map_or]

theorem verdictAlike {back : Bool} (alike : ∀ rule ∈ rules, rule.takesBack = back)
    (path : List UInt8) (isFolder : Bool) :
    verdict? rules path isFolder =
      if ∃ rule ∈ rules, rule.speaksOf path isFolder = true then some (!back) else none := by
  unfold verdict?
  cases found : rules.reverse.find? (·.speaksOf path isFolder) with
  | none =>
    have silent : ¬ ∃ rule ∈ rules, rule.speaksOf path isFolder = true := by simpa using found
    rw [if_neg silent]
    rfl
  | some rule =>
    have inside : rule ∈ rules := List.mem_reverse.mp (List.mem_of_find?_eq_some found)
    have speaks : rule.speaksOf path isFolder = true := by simpa using List.find?_some found
    rw [if_pos ⟨rule, inside, speaks⟩, Option.map_some, alike rule inside]

theorem verdictOver {back : Bool} (alike : ∀ rule ∈ more, rule.takesBack = back)
    (rules : List Rule) (path : List UInt8) (isFolder : Bool) :
    verdict? (rules ++ more) path isFolder =
      if ∃ rule ∈ more, rule.speaksOf path isFolder = true then some (!back)
      else verdict? rules path isFolder := by
  rw [verdictMore, verdictAlike alike]
  split
  case isTrue => rfl
  case isFalse => rfl

theorem lastWord (rules : List Rule) (speaks : rule.speaksOf path isFolder = true) :
    drops (rules ++ [rule]) path isFolder = !rule.takesBack := by
  have own : verdict? [rule] path isFolder = some (!rule.takesBack) := by
    simp [verdict?, speaks]
  rw [drops, verdictMore, own]
  rfl

theorem answerMore {asked : List (List UInt8 × Bool)}
    (dropping : ∀ rule ∈ more, rule.takesBack = false)
    (dropped : answer? rules asked = some true) : answer? (rules ++ more) asked = some true := by
  induction asked with
  | nil => cases dropped
  | cons l asked ih =>
    rw [answerCons, Option.or_eq_some_iff] at dropped ⊢
    rw [verdictOver dropping]
    split
    case isTrue => exact .inl rfl
    case isFalse => exact dropped.imp_right (And.imp_right ih)

theorem answerLess {asked : List (List UInt8 × Bool)}
    (takingBack : ∀ rule ∈ more, rule.takesBack = true)
    (dropped : answer? (rules ++ more) asked = some true) : answer? rules asked = some true := by
  induction asked with
  | nil => cases dropped
  | cons l asked ih =>
    rw [answerCons, Option.or_eq_some_iff] at dropped ⊢
    rw [verdictOver takingBack] at dropped
    split at dropped
    case isTrue => simp at dropped
    case isFalse => exact dropped.imp_right (And.imp_right ih)

theorem answerAlike (dropping : ∀ rule ∈ rules, rule.takesBack = false)
    (asked : List (List UInt8 × Bool)) : answer? rules asked = some true ↔
      ∃ l ∈ asked, ∃ rule ∈ rules, rule.speaksOf l.1 l.2 = true := by
  induction asked with
  | nil => simp [answer?]
  | cons l asked ih =>
    rw [answerCons, verdictAlike dropping, List.exists_mem_cons_iff, ← ih]
    split
    case isTrue speaks => simp [speaks]
    case isFalse silent => simp [silent]

theorem noRuleDrops (path : List UInt8) (isFolder : Bool) : drops [] path isFolder = false := by
  rw [Bool.eq_false_iff, ne_eq, dropsIff, answerAlike (by simp)]
  simp

theorem aboveIff (trim : Trimmed ss) (enough : ss.length ≤ fuel) :
    q ∈ above fuel (join ss) ↔ ∃ front, Above front ss ∧ q = join front := by
  induction fuel generalizing ss with
  | zero =>
    cases List.length_eq_zero_iff.mp (Nat.le_zero.mp enough)
    simp [above]
  | succ fuel ih =>
    rcases List.eq_nil_or_concat ss with rfl | ⟨before, s, rfl⟩
    · have top : Path.parent? (join []) = none := rfl
      simp [above, top]
    · rw [List.concat_eq_append] at trim enough ⊢
      have fewer := (Path.trimPrefix before).length_le
      rw [List.length_append, List.length_singleton] at enough
      simp only [above, Path.parentJoined trim, List.mem_cons, ih trim.up (by omega),
        Path.aboveSnoc, or_and_right, exists_or, exists_eq_left]

theorem dropsBelow (dropping : ∀ rule ∈ rules, rule.takesBack = false) (trim : Trimmed ss) :
    drops rules (join ss) isFolder = true ↔
      (∃ rule ∈ rules, rule.speaksOf (join ss) isFolder = true) ∨
        ∃ front, Above front ss ∧ ∃ rule ∈ rules, rule.speaksOf (join front) true = true := by
  rw [dropsIff, answerAlike dropping, levels, List.exists_mem_cons_iff]
  apply or_congr_right
  simp only [List.mem_map, aboveIff trim (Path.joinLength ss)]
  constructor
  · rintro ⟨l, ⟨q, ⟨front, higher, rfl⟩, rfl⟩, spoken⟩
    exact ⟨front, higher, spoken⟩
  · rintro ⟨front, higher, spoken⟩
    exact ⟨(join front, true), ⟨_, ⟨front, higher, rfl⟩, rfl⟩, spoken⟩

theorem speaksMore (spoken : rule.speaksOf path one = true)
    (more : one = true → other = true) : rule.speaksOf path other = true := by
  rw [speaksOf, Bool.and_eq_true, Bool.or_eq_true] at spoken ⊢
  exact ⟨spoken.1.imp_left more, spoken.2⟩

theorem dropsFurther (dropping : ∀ rule ∈ rules, rule.takesBack = false) (trim : Trimmed ss)
    (trimFurther : Trimmed (ss ++ tt)) (dropped : drops rules (join ss) one = true)
    (same : tt = [] → one = true → other = true) : drops rules (join (ss ++ tt)) other = true := by
  rw [dropsBelow dropping trim] at dropped
  rw [dropsBelow dropping trimFurther]
  rcases dropped with ⟨rule, inside, spoken⟩ | ⟨front, higher, spoken⟩
  · by_cases nothing : tt = []
    · subst nothing
      rw [List.append_nil]
      exact .inl ⟨rule, inside, speaksMore spoken (same rfl)⟩
    · have higher : Above ss (ss ++ tt) := ⟨⟨tt, nothing, rfl⟩, trim.last⟩
      exact .inr ⟨ss, higher, rule, inside, speaksMore spoken fun _ => rfl⟩
  · exact .inr ⟨front, higher.further tt, spoken⟩

end FolderWatch.Exclude.Rule
