import FolderWatch.Proofs.Exclude.Lines
import FolderWatch.Proofs.Exclude.Shape
import FolderWatch.Proofs.Text.Utf8

/-! What the rules see of an entry decides its verdict: the path below the folder, except that the
folder's own text is taken off once more where the name begins with it, and that nothing is seen
below a folder whose text ends in a backslash. -/
namespace FolderWatch.Exclude.Filter

open Utf8 (ofString encodeAppend encodeEnds encodeFilled)

variable {filter : Filter} {folder : Folder} {name : String} {folders : List Folder}
  {lines : List String} {rules : List Rule} {lead root path rest n : List UInt8}

/-- The path that the rules are asked about for an entry of a folder. -/
def seen? (folder : Folder) (name : String) : Option (List UInt8) :=
  if folder.text.toList.getLast? = some '\\' then none
  else some (candidate (ofString folder.text) (ofString name))

/-- The root is not taken off a name: it is the place itself, or the name does not begin with its
text, or has one segment only. -/
def Untouched (root n : List UInt8) : Prop :=
  Path.names (withoutDot root) = [[Path.dot]] ∨ Path.slash ∉ n ∨ withoutDot root = [] ∨
    ¬ withoutDot root <+: n

instance (root n : List UInt8) : Decidable (Untouched root n) :=
  inferInstanceAs (Decidable (_ ∨ _ ∨ _ ∨ _))

/-- No list of lines, as long as none speaks of folders only, drops the entry of one folder and
keeps that of the other. -/
def Alike (one other : Folder) (name : String) : Prop :=
  ∀ (isFolder : String → Bool) (folders : List Folder) (lines : List String) (filter : Filter),
    ofLines folders lines = .ok filter → one ∈ folders → other ∈ folders →
      (∀ rule ∈ filter.rules, rule.onlyFolders = false) →
        filter.skips isFolder one (one.entry name) = filter.skips isFolder other (other.entry name)

theorem entryBelow (filled : folder.text ≠ "") (plain : Path.Plain (ofString name)) :
    Path.below? (ofString folder.text) (ofString (folder.entry name)) =
      if folder.text.toList.getLast? = some '\\' then none else some (ofString name) := by
  unfold Folder.entry
  split
  · next ends =>
    obtain ⟨front, bytes⟩ := encodeEnds ends
    have separator : String.utf8EncodeChar '/' = [Path.slash] := by decide
    rw [encodeAppend, bytes, separator, List.append_assoc, ends, if_neg (by decide)]
    exact Path.belowTrailing plain
  · next ends =>
    obtain ⟨front, bytes⟩ := encodeEnds ends
    have backslash : String.utf8EncodeChar '\\' = [0x5C] := by decide
    rw [encodeAppend, bytes, backslash, ends, if_pos rfl]
    exact Path.belowMerged (by decide) (by decide) plain
  · next _ other =>
    have separator : ofString "/" = [Path.slash] := by decide
    rw [if_neg other, encodeAppend, encodeAppend, separator, List.append_assoc]
    exact Path.belowJoined (encodeFilled filled) plain

theorem verdictOfFiles (all : ∀ rule ∈ rules, rule.onlyFolders = false) (path : List UInt8)
    (isFolder : Bool) : Rule.verdict? rules path isFolder = Rule.verdict? rules path false := by
  have same : rules.reverse.filter (·.speaksOf path isFolder) =
      rules.reverse.filter (·.speaksOf path false) := by
    apply List.filter_congr
    intro rule inside
    rw [Rule.speaksOf, Rule.speaksOf, all rule (List.mem_reverse.mp inside), Bool.not_false,
      Bool.or_true, Bool.or_true]
  rw [Rule.verdict?, ← List.head?_filter, same, List.head?_filter, Rule.verdict?]

theorem strippedIff : stripped lead path = some rest ↔ path = lead ++ rest := by
  unfold stripped
  split
  · next front =>
    obtain ⟨tail, rfl⟩ := List.isPrefixOf_iff_prefix.mp front
    simp
  · next other =>
    constructor
    · intro found
      cases found
    · rintro rfl
      exact absurd (List.isPrefixOf_iff_prefix.mpr (List.prefix_append lead rest)) other

theorem strippedNone : stripped lead path = none ↔ ¬ lead <+: path := by
  rw [← List.isPrefixOf_iff_prefix]
  simp [stripped]

theorem strippedSuffix (lead path : List UInt8) : (stripped lead path).getD path <:+ path := by
  cases taken : stripped lead path with
  | none => exact List.suffix_rfl
  | some rest => exact ⟨lead, (strippedIff.mp taken).symm⟩

theorem rootedStart (rooted : Path.isAbsolute path = true) : ∃ rest, path = Path.slash :: rest := by
  cases path with
  | nil => cases rooted
  | cons b rest => exact ⟨rest, by simpa [Path.isAbsolute] using rooted⟩

theorem unrootedIff : Path.isAbsolute path = false ↔ stripped [Path.slash] path = none := by
  rw [strippedNone, Bool.eq_false_iff, ne_eq, not_iff_not]
  constructor
  · intro rooted
    obtain ⟨rest, rfl⟩ := rootedStart rooted
    exact ⟨rest, rfl⟩
  · rintro ⟨rest, rfl⟩
    rfl

theorem namedStart (first : ∀ s ∈ (Path.split n).head?, Path.isFiller s = false) :
    stripped [Path.slash] n = none ∧ withoutDot n = n := by
  have unopened : stripped [Path.slash] n = none := by
    rw [strippedNone]
    rintro ⟨rest, rfl⟩
    cases first [] (by rw [List.singleton_append, Path.splitSlash]; rfl)
  have undotted : stripped [Path.dot, Path.slash] n = none := by
    rw [strippedNone]
    rintro ⟨rest, rfl⟩
    have cut := Path.splitOther (x := Path.dot) (by decide) (Path.splitSlash rest)
    cases first [Path.dot] (by rw [List.cons_append, List.singleton_append, cut]; rfl)
  exact ⟨unopened, by rw [withoutDot, undotted]; rfl⟩

theorem plainStart (plain : Path.Plain n) :
    stripped [Path.slash] n = none ∧ withoutDot n = n :=
  namedStart fun s head => plain s (List.mem_of_head? head)

/-- An absolute root is never taken off again: no path below a folder begins with a separator. -/
theorem candidateAbsolute (absolute : Path.isAbsolute root = true)
    (first : ∀ s ∈ (Path.split n).head?, Path.isFiller s = false) : candidate root n = n := by
  obtain ⟨unopened, undotted⟩ := namedStart first
  obtain ⟨rest, rfl⟩ := rootedStart absolute
  have whole : withoutDot (Path.slash :: rest) = Path.slash :: rest := rfl
  have apart : stripped (Path.slash :: rest) n = none := by
    rw [strippedNone] at unopened ⊢
    exact fun front => unopened ((List.prefix_append [Path.slash] rest).trans front)
  simp [candidate, whole, undotted, apart]

theorem plainEnd (plain : Path.Plain n) (tail : path <:+ n) (filled : path ≠ []) :
    ∃ init, Glob.slashes path = init ++ [false] := by
  obtain ⟨front, rfl⟩ := tail
  obtain ⟨init, b, rfl⟩ := (List.eq_nil_or_concat path).resolve_left filled
  have named : b ≠ Path.slash := by
    rintro rfl
    have cut := Path.splitAppend (front ++ init) []
    rw [List.append_assoc] at cut
    cases plain [] (by
      rw [List.concat_eq_append, cut]; exact List.mem_append_right _ List.mem_cons_self)
  refine ⟨Glob.slashes init, ?_⟩
  rw [Glob.slashes, List.concat_eq_append, List.map_append, List.map_singleton, Glob.isSlash,
    beq_eq_false_iff_ne.mpr named, Glob.slashes]

theorem candidateCases (root : List UInt8) (plain : Path.Plain n) :
    Untouched root n ∧ candidate root n = n ∨
      ¬ Untouched root n ∧ candidate root n <:+ n ∧ (candidate root n).length < n.length := by
  obtain ⟨unopened, undotted⟩ := plainStart plain
  unfold candidate Untouched
  rw [undotted]
  by_cases here : Path.names (withoutDot root) = [[Path.dot]]
  · simp [here]
  by_cases deep : Path.slash ∈ n
  · have asked : (Path.names (withoutDot root) == [[Path.dot]] || !n.contains Path.slash) =
        false := by
      simp [here, deep]
    simp only [asked, Bool.false_eq_true, if_false]
    cases taken : stripped (withoutDot root) n with
    | none => exact .inl ⟨.inr (.inr (.inr (strippedNone.mp taken))), rfl⟩
    | some rest =>
      have whole := strippedIff.mp taken
      by_cases bare : withoutDot root = []
      · rw [bare, List.nil_append] at whole
        subst whole
        exact .inl ⟨.inr (.inr (.inl bare)), congrArg (·.getD n) unopened⟩
      · have positive := List.length_pos_iff.mpr bare
        have length := congrArg List.length whole
        rw [List.length_append] at length
        refine .inr ⟨?_, ?_⟩
        · rintro (dotted | flat | empty | other)
          · exact here dotted
          · exact flat deep
          · exact bare empty
          · exact other ⟨rest, whole.symm⟩
        · have tail := strippedSuffix [Path.slash] rest
          exact ⟨tail.trans ⟨_, whole.symm⟩, by have short := tail.length_le; dsimp only; omega⟩
  · simp [deep]

/-- No separator is left in front: one is taken off with the root, and a plain name has no two in a
row. -/
theorem candidateUnrooted (plain : Path.Plain n) : Path.isAbsolute (candidate root n) = false := by
  obtain ⟨unopened, undotted⟩ := plainStart plain
  unfold candidate
  rw [undotted]
  dsimp only
  split
  · exact unrootedIff.mpr unopened
  · cases taken : stripped (withoutDot root) n with
    | none => exact unrootedIff.mpr unopened
    | some rest =>
      cases opened : stripped [Path.slash] rest with
      | none =>
        simp only [opened, Option.getD_none]
        exact unrootedIff.mpr opened
      | some tail =>
        simp only [opened, Option.getD_some]
        rw [strippedIff] at taken opened
        subst taken opened
        apply Bool.eq_false_iff.mpr
        intro rooted
        obtain ⟨rest, rfl⟩ := rootedStart rooted
        have cut := Path.splitAppend (withoutDot root) (Path.slash :: rest)
        rw [Path.splitSlash] at cut
        cases plain [] (cut ▸ List.mem_append_right _ List.mem_cons_self)

theorem skipsSeen (read : ofLines folders lines = .ok filter) (inside : folder ∈ folders)
    (all : ∀ rule ∈ filter.rules, rule.onlyFolders = false) (filled : folder.text ≠ "")
    (plain : Path.Plain (ofString name)) (isFolder : String → Bool) :
    filter.skips isFolder folder (folder.entry name) =
      .ok ((seen? folder name).any (Rule.drops filter.rules · false)) := by
  obtain ⟨rules, listed⟩ := readListed read inside
  have found := entryBelow filled plain
  unfold seen?
  by_cases ends : folder.text.toList.getLast? = some '\\'
  · rw [if_pos ends] at found ⊢
    simp [skips, found]
  · rw [if_neg ends] at found ⊢
    have same := listedRules read inside listed
    rw [skipsBelow read inside listed found (Path.plainFilled plain) (candidateUnrooted plain),
      ← same]
    simp only [Rule.drops, verdictOfFiles all, Option.any_some]

theorem candidateSuffix (plain : Path.Plain n) : candidate root n <:+ n := by
  rcases candidateCases root plain with ⟨-, whole⟩ | ⟨-, tail, -⟩
  · exact ⟨[], whole⟩
  · exact tail

theorem candidateWhole (plain : Path.Plain n) : candidate root n = n ↔ Untouched root n := by
  rcases candidateCases root plain with ⟨untouched, whole⟩ | ⟨touched, -, less⟩
  · exact ⟨fun _ => untouched, fun _ => whole⟩
  · refine ⟨fun whole => ?_, fun untouched => absurd untouched touched⟩
    rw [whole] at less
    exact absurd less (Nat.lt_irrefl _)

theorem seenSuffix (plain : Path.Plain (ofString name)) (seen : seen? folder name = some path) :
    path <:+ ofString name := by
  unfold seen? at seen
  split at seen
  · cases seen
  · cases seen
    exact candidateSuffix plain

theorem shapeTells (plain : Path.Plain n) (tail : path <:+ n)
    (shorter : rest.length < path.length) : ∃ line rule, Rule.ofLine line = .ok (some rule) ∧
      rule.onlyFolders = false ∧
        Rule.drops [rule] path false = true ∧ Rule.drops [rule] rest false = false := by
  have filled : path ≠ [] := List.length_pos_iff.mp (by omega)
  obtain ⟨init, shape⟩ := plainEnd plain tail filled
  refine ⟨Rule.lineOfShape (init ++ [false]), _, Rule.shapeLine init, rfl, ?_, ?_⟩
  · rw [← shape]
    exact Rule.shapeDrops path false
  · rw [← shape]
    exact Rule.shapeSpares shorter false

theorem suffixesTold (plain : Path.Plain n) (one : path <:+ n) (other : rest <:+ n)
    (differ : path ≠ rest) : ∃ line rule, Rule.ofLine line = .ok (some rule) ∧
      rule.onlyFolders = false ∧
        Rule.drops [rule] path false ≠ Rule.drops [rule] rest false := by
  rcases Nat.lt_trichotomy rest.length path.length with less | same | more
  · obtain ⟨line, rule, read, files, dropped, spared⟩ := shapeTells plain one less
    exact ⟨line, rule, read, files, by rw [dropped, spared]; decide⟩
  · have inside := List.suffix_of_suffix_length_le one other (Nat.le_of_eq same.symm)
    exact absurd (inside.eq_of_length same.symm) differ
  · obtain ⟨line, rule, read, files, dropped, spared⟩ := shapeTells plain other more
    exact ⟨line, rule, read, files, by rw [dropped, spared]; decide⟩

theorem everythingLine : Rule.ofLine "**" = .ok (some ⟨[.leading], false, false⟩) ∧
    ∀ path, Rule.drops [⟨[.leading], false, false⟩] path false = true := ⟨rfl, fun _ => rfl⟩

section Told

variable {one other : Folder} (alike : Alike one other name) (filledOne : one.text ≠ "")
  (filledOther : other.text ≠ "") (plain : Path.Plain (ofString name))

include alike filledOne filledOther plain

theorem alikeRule {line : String} {rule : Rule} (read : Rule.ofLine line = .ok (some rule))
    (files : rule.onlyFolders = false) :
    (seen? one name).any (Rule.drops [rule] · false) =
      (seen? other name).any (Rule.drops [rule] · false) := by
  have built : ofLines [one, other] [line] =
      .ok ⟨[one, other], [rule], [line].any asksForFolders⟩ := by
    simp [ofLines, readLines, read, Except.map]
  have first : one ∈ [one, other] := List.mem_cons_self
  have second : other ∈ [one, other] := List.mem_cons_of_mem _ List.mem_cons_self
  have all : ∀ r ∈ [rule], r.onlyFolders = false := by
    intro r inside
    rw [List.mem_singleton.mp inside]
    exact files
  have nowhere : String → Bool := fun _ => false
  apply Except.ok.inj (ε := Panic)
  calc .ok ((seen? one name).any (Rule.drops [rule] · false))
      = skips nowhere _ one (one.entry name) :=
        (skipsSeen built first all filledOne plain nowhere).symm
    _ = skips nowhere _ other (other.entry name) :=
        alike nowhere _ _ _ built first second all
    _ = .ok ((seen? other name).any (Rule.drops [rule] · false)) :=
        skipsSeen built second all filledOther plain nowhere

theorem alikeSeen : seen? one name = seen? other name := by
  obtain ⟨all, dropped⟩ := everythingLine
  have stars := alikeRule alike filledOne filledOther plain all rfl
  cases first : seen? one name with
  | none =>
    cases second : seen? other name with
    | none => rfl
    | some rest =>
      rw [first, second, Option.any_none, Option.any_some, dropped] at stars
      cases stars
  | some path =>
    cases second : seen? other name with
    | none =>
      rw [first, second, Option.any_none, Option.any_some, dropped] at stars
      cases stars
    | some rest =>
      by_contra differ
      have apart : path ≠ rest := fun same => differ (congrArg some same)
      obtain ⟨line, rule, read, files, told⟩ :=
        suffixesTold plain (seenSuffix plain first) (seenSuffix plain second) apart
      have same := alikeRule alike filledOne filledOther plain read files
      rw [first, second] at same
      exact told same

end Told

/-- Two folders agree on an entry under all lines exactly if the rules see the same of it. -/
theorem verdictBySeen {one other : Folder} (filledOne : one.text ≠ "")
    (filledOther : other.text ≠ "") (plain : Path.Plain (ofString name)) :
    (Alike one other name ↔ seen? one name = seen? other name) ∧
      (seen? one name = some (ofString name) ↔
        one.text.toList.getLast? ≠ some '\\' ∧ Untouched (ofString one.text) (ofString name)) ∧
      ∀ (isFolder : String → Bool) (folders : List Folder) (lines : List String)
        (filter : Filter), ofLines folders lines = .ok filter → one ∈ folders →
          (∀ rule ∈ filter.rules, rule.onlyFolders = false) →
            filter.skips isFolder one (one.entry name) =
              .ok ((seen? one name).any (Rule.drops filter.rules · false)) := by
  refine ⟨⟨fun alike => alikeSeen alike filledOne filledOther plain, ?_⟩, ?_, ?_⟩
  · intro same isFolder folders lines filter read first second all
    rw [skipsSeen read first all filledOne plain, skipsSeen read second all filledOther plain, same]
  · unfold seen?
    by_cases ends : one.text.toList.getLast? = some '\\'
    · simp [ends]
    · simp [ends, candidateWhole plain]
  · intro isFolder folders lines filter read inside all
    exact skipsSeen read inside all filledOne plain isFolder

theorem verdictsTold :
    Alike (.ofText "/srv/data/") (.ofText "lib") "src/notes" ∧
      ¬ Alike (.ofText "/srv/data/") (.ofText "src") "src/notes" := by
  have plain : Path.Plain (ofString "src/notes") := by decide +kernel
  constructor
  · exact (verdictBySeen (by decide +kernel) (by decide +kernel) plain).1.mpr (by decide +kernel)
  · intro alike
    have same := (verdictBySeen (by decide +kernel) (by decide +kernel) plain).1.mp alike
    exact absurd same (by decide +kernel)

/-- The line `/src` drops the entry `src/x` of `lib`, but not the same entry of `src`. -/
theorem ownTextTakenOff : ¬ ∀ (one other : Folder) (name : String), one.text ≠ "" →
    other.text ≠ "" → Path.Plain (ofString name) → Alike one other name := by
  intro alike
  have read : ofLines [.ofText "src", .ofText "lib"] ["/src"] =
      .ok ⟨[.ofText "src", .ofText "lib"], [⟨"src".toList.map .literal, false, false⟩], false⟩ :=
    rfl
  have same := alike (.ofText "src") (.ofText "lib") "src/x" (by decide +kernel) (by decide +kernel)
    (by decide +kernel) (fun _ => false) _ _ _ read (by decide +kernel) (by decide +kernel)
    (by simp)
  exact absurd same (by decide +kernel)

end FolderWatch.Exclude.Filter
