import FolderWatch.Exclude.Filter
import FolderWatch.Proofs.Exclude.Levels

/-! Lists of lines and the rules they come to. A rule has its marks from its own line: it takes
back exactly if the line opens with `!`, and one that speaks of folders only has its line ask which
entries are folders. -/
namespace FolderWatch.Exclude

/-- The rules that lines come to, in their order; a line may come to none. -/
inductive Listed : List String → List Rule → Prop
  | nil : Listed [] []
  | idle {line lines rules} (read : Rule.ofLine line = .ok none) (rest : Listed lines rules) :
      Listed (line :: lines) rules
  | rule {line lines rule rules} (read : Rule.ofLine line = .ok (some rule))
      (rest : Listed lines rules) : Listed (line :: lines) (rule :: rules)

variable {line : String} {lines more : List String} {rule : Rule} {rules all : List Rule}

namespace Rule

theorem cutPrefix (cs : List Char) : cut cs <+: cs := by
  unfold cut
  split
  · exact List.prefix_rfl
  · rw [Blank.trimEnd, ← List.reverse_suffix, List.reverse_reverse]
    exact List.dropWhile_suffix _

theorem cutSlash {cs : List Char} (ends : (cut cs).getLast? = some '/') :
    (Blank.trimEnd cs).getLast? = some '/' := by
  unfold cut at ends
  split at ends
  · next escaped =>
    rw [← List.head?_reverse, escaped] at ends
    cases ends
  · exact ends

theorem frontTakesBack (cs : List Char) : (front cs).takesBack = (cs.head? == some '!') := by
  unfold front
  split
  case h_6 unmarked _ =>
    cases cs with
    | nil => rfl
    | cons c cs =>
      have other : c ≠ '!' := fun same => unmarked cs (by rw [same])
      simp [other]
  all_goals rfl

theorem frontAny (cs : List Char) : (front cs).onlyFolders = false := by
  unfold front
  split <;> rfl

theorem frontSuffix (cs : List Char) : (front cs).body <:+ cs := by
  unfold front
  split
  · exact List.suffix_cons _ _
  · exact List.suffix_cons _ _
  · exact (List.suffix_cons _ _).trans (List.suffix_cons _ _)
  · exact List.suffix_cons _ _
  · exact List.suffix_cons _ _
  · exact List.suffix_rfl

theorem backTakesBack (parts : Parts) : (back parts).takesBack = parts.takesBack := by
  unfold back
  split <;> rfl

theorem backSlash {parts : Parts} (any : parts.onlyFolders = false)
    (only : (back parts).onlyFolders = true) : parts.body.getLast? = some '/' := by
  rw [← List.head?_reverse]
  unfold back at only
  split at only
  · next separated => rw [separated]; rfl
  · next separated => rw [separated]; rfl
  · rw [any] at only
    cases only

theorem ofLineParts (read : ofLine line = .ok (some rule)) :
    cut line.toList ≠ [] ∧ ofParts (back (front (cut line.toList))) = .ok rule := by
  unfold ofLine at read
  split at read
  · cases read
  · dsimp only at read
    split at read
    · cases read
    · next some =>
      split at read
      · next parsed =>
        cases read
        exact ⟨fun empty => some (List.isEmpty_iff.mpr empty), parsed⟩
      · cases read

theorem ofPartsMarks {parts : Parts} (read : ofParts parts = .ok rule) :
    rule.takesBack = parts.takesBack ∧ rule.onlyFolders = parts.onlyFolders := by
  unfold ofParts at read
  cases glob : Glob.ofText (contentsOnly (anyDepth parts)) with
  | error e =>
    rw [glob] at read
    cases read
  | ok g =>
    rw [glob] at read
    cases read
    exact ⟨rfl, rfl⟩

theorem lineTakesBack (read : ofLine line = .ok (some rule)) :
    rule.takesBack = (line.toList.head? == some '!') := by
  obtain ⟨some, parsed⟩ := ofLineParts read
  obtain ⟨rest, whole⟩ := cutPrefix line.toList
  have head : (cut line.toList).head? = line.toList.head? := by
    conv_rhs => rw [← whole, List.head?_append_of_ne_nil _ some]
  rw [(ofPartsMarks parsed).1, backTakesBack, frontTakesBack, head]

theorem lineAsks (read : ofLine line = .ok (some rule)) (only : rule.onlyFolders = true) :
    Filter.asksForFolders line = true := by
  obtain ⟨-, parsed⟩ := ofLineParts read
  rw [(ofPartsMarks parsed).2] at only
  have ends := backSlash (frontAny _) only
  obtain ⟨marks, whole⟩ := frontSuffix (cut line.toList)
  have last : (cut line.toList).getLast? = some '/' := by
    rw [← whole, List.getLast?_append, ends]
    rfl
  rw [Filter.asksForFolders, cutSlash last]
  rfl

end Rule

theorem listedIff : Filter.readLines lines = .ok rules ↔ Listed lines rules := by
  constructor
  · intro read
    induction lines generalizing rules with
    | nil =>
      cases read
      exact .nil
    | cons line lines ih =>
      simp only [Filter.readLines] at read
      split at read
      · cases read
      · next rule own =>
        cases others : Filter.readLines lines with
        | error flaw =>
          rw [others] at read
          cases read
        | ok list =>
          rw [others] at read
          cases read
          cases rule with
          | none => exact .idle own (ih others)
          | some rule => exact .rule own (ih others)
  · intro listed
    induction listed with
    | nil => rfl
    | idle read rest ih =>
      rw [Filter.readLines, read, ih]
      rfl
    | rule read rest ih =>
      rw [Filter.readLines, read, ih]
      rfl

theorem Listed.unique (listed : Listed lines rules) (again : Listed lines all) : rules = all := by
  have same := listedIff.mpr listed
  rw [listedIff.mpr again] at same
  cases same
  rfl

theorem Listed.append (listed : Listed (lines ++ more) all) :
    ∃ rules extra, Listed lines rules ∧ Listed more extra ∧ all = rules ++ extra := by
  induction lines generalizing all with
  | nil => exact ⟨[], all, .nil, listed, rfl⟩
  | cons line lines ih =>
    cases listed with
    | idle read rest =>
      obtain ⟨rules, extra, first, last, rfl⟩ := ih rest
      exact ⟨rules, extra, .idle read first, last, rfl⟩
    | @rule _ _ rule _ read rest =>
      obtain ⟨rules, extra, first, last, rfl⟩ := ih rest
      exact ⟨rule :: rules, extra, .rule read first, last, rfl⟩

theorem Listed.own (listed : Listed lines rules) :
    ∀ rule ∈ rules, ∃ line ∈ lines, Rule.ofLine line = .ok (some rule) := by
  induction listed with
  | nil => simp
  | idle read rest ih =>
    intro rule inside
    obtain ⟨line, among, ofLine⟩ := ih rule inside
    exact ⟨line, List.mem_cons_of_mem _ among, ofLine⟩
  | @rule line lines first rules read rest ih =>
    intro rule inside
    rcases List.mem_cons.mp inside with rfl | later
    · exact ⟨line, List.mem_cons_self, read⟩
    · obtain ⟨line, among, ofLine⟩ := ih rule later
      exact ⟨line, List.mem_cons_of_mem _ among, ofLine⟩

theorem Listed.dropping (listed : Listed lines rules)
    (unmarked : ∀ line ∈ lines, line.toList.head? ≠ some '!') :
    ∀ rule ∈ rules, rule.takesBack = false := by
  intro rule inside
  obtain ⟨line, among, read⟩ := listed.own rule inside
  rw [Rule.lineTakesBack read, beq_eq_false_iff_ne]
  exact unmarked line among

theorem Listed.takingBack (listed : Listed lines rules)
    (marked : ∀ line ∈ lines, line.toList.head? = some '!') :
    ∀ rule ∈ rules, rule.takesBack = true := by
  intro rule inside
  obtain ⟨line, among, read⟩ := listed.own rule inside
  rw [Rule.lineTakesBack read, beq_iff_eq]
  exact marked line among

theorem Listed.unasked (listed : Listed lines rules)
    (silent : lines.any Filter.asksForFolders = false) :
    ∀ rule ∈ rules, rule.onlyFolders = false := by
  intro rule inside
  obtain ⟨line, among, read⟩ := listed.own rule inside
  by_contra only
  have asks := Rule.lineAsks read (by simpa using only)
  exact absurd (List.any_eq_true.mpr ⟨line, among, asks⟩) (by simp [silent])

namespace Filter

open Utf8 (ofString)

variable {folders : List Folder} {folder : Folder} {filter : Filter} {path : String}
  {below : List UInt8}

theorem judgeUnrooted (rules : List Rule) {seen : List UInt8}
    (unrooted : Path.isAbsolute seen = false) (isFolder : Bool) :
    judge rules seen isFolder = .ok (Rule.drops rules seen isFolder) := by
  rw [judge, unrooted, Bool.and_false, if_neg (by decide)]

theorem judgeDrops {rules : List Rule} {seen : List UInt8} {isFolder : Bool} :
    judge rules seen isFolder = .ok true ↔
      Path.isAbsolute seen = false ∧ Rule.drops rules seen isFolder = true := by
  cases rooted : Path.isAbsolute seen with
  | false => simp [judgeUnrooted rules rooted]
  | true =>
    cases rules with
    | nil => simp [judge, Rule.noRuleDrops]
    | cons rule rules => simp [judge, rooted]

theorem skipsWatched (inside : folder ∈ filter.folders) (isFolder : String → Bool) :
    filter.skips isFolder folder path = .ok true ↔
      ∃ below, Path.below? (ofString folder.text) (ofString path) = some below ∧ below ≠ [] ∧
        Path.isAbsolute (candidate (ofString folder.text) below) = false ∧
          Rule.drops filter.rules (candidate (ofString folder.text) below)
            (filter.looksUp && isFolder path) = true := by
  cases found : Path.below? (ofString folder.text) (ofString path) with
  | none => simp [skips, found]
  | some below => cases below <;> simp [skips, inside, found, judgeDrops]

theorem skipsUnwatched (outside : folder ∉ filter.folders) (isFolder : String → Bool) :
    filter.skips isFolder folder path = .ok false := by
  simp [skips, outside]

theorem readOn (read : ofLines folders lines = .ok filter) :
    filter = empty ∧ (lines = [] ∨ folders = []) ∨
      ∃ rules, Listed lines rules ∧ filter = ⟨folders, rules, lines.any asksForFolders⟩ := by
  unfold ofLines at read
  split at read
  · next nothing =>
    cases read
    exact .inl ⟨rfl, by simpa using nothing⟩
  · cases list : readLines lines with
    | error flaw =>
      rw [list] at read
      cases read
    | ok rules =>
      rw [list] at read
      cases read
      exact .inr ⟨rules, listedIff.mp list, rfl⟩

theorem readListed (read : ofLines folders lines = .ok filter) (inside : folder ∈ folders) :
    ∃ rules, Listed lines rules := by
  rcases readOn read with ⟨-, rfl | rfl⟩ | ⟨rules, listed, -⟩
  · exact ⟨[], .nil⟩
  · cases inside
  · exact ⟨rules, listed⟩

theorem listedRules (read : ofLines folders lines = .ok filter) (inside : folder ∈ folders)
    (listed : Listed lines rules) : filter.rules = rules := by
  rcases readOn read with ⟨rfl, rfl | rfl⟩ | ⟨again, relisted, rfl⟩
  · cases listed
    rfl
  · cases inside
  · exact relisted.unique listed

theorem skipsIff (read : ofLines folders lines = .ok filter) (isFolder : String → Bool) :
    filter.skips isFolder folder path = .ok true ↔
      folder ∈ folders ∧ ∃ rules, Listed lines rules ∧
        ∃ below, Path.below? (ofString folder.text) (ofString path) = some below ∧ below ≠ [] ∧
          Path.isAbsolute (candidate (ofString folder.text) below) = false ∧
            Rule.drops rules (candidate (ofString folder.text) below)
              (lines.any asksForFolders && isFolder path) = true := by
  rcases readOn read with ⟨rfl, rfl | rfl⟩ | ⟨rules, listed, rfl⟩
  · constructor
    · intro dropped
      cases dropped
    · rintro ⟨-, rules, listed, below, -, -, -, dropped⟩
      cases listed
      rw [Rule.noRuleDrops] at dropped
      cases dropped
  · have outside : folder ∉ empty.folders := List.not_mem_nil
    simp [skipsUnwatched outside]
  · by_cases inside : folder ∈ folders
    · rw [skipsWatched inside]
      constructor
      · exact fun dropped => ⟨inside, rules, listed, dropped⟩
      · rintro ⟨-, again, relisted, dropped⟩
        cases listed.unique relisted
        exact dropped
    · have unwatched : skips isFolder ⟨folders, rules, lines.any asksForFolders⟩ folder path =
          .ok false := skipsUnwatched inside isFolder
      simp [unwatched, inside]

def Answers (filter : Filter) (isFolder : String → Bool) (folder : Folder) (path : String) : Prop :=
  ∃ dropped, filter.skips isFolder folder path = .ok dropped

theorem skipsAnswers (filter : Filter) (isFolder : String → Bool)
    (unrooted : ∀ below ∈ Path.below? (ofString folder.text) (ofString path), below ≠ [] →
      Path.isAbsolute (candidate (ofString folder.text) below) = false) :
    filter.Answers isFolder folder path := by
  unfold Answers
  by_cases inside : folder ∈ filter.folders
  · cases found : Path.below? (ofString folder.text) (ofString path) with
    | none => simp [skips, found]
    | some below =>
      by_cases filled : below = []
      · simp [skips, found, filled]
      · simp [skips, inside, found, filled, judgeUnrooted _ (unrooted below found filled)]
  · exact ⟨false, skipsUnwatched inside isFolder⟩

theorem skipsBelow (read : ofLines folders lines = .ok filter) (inside : folder ∈ folders)
    (listed : Listed lines rules)
    (found : Path.below? (ofString folder.text) (ofString path) = some below) (filled : below ≠ [])
    (unrooted : Path.isAbsolute (candidate (ofString folder.text) below) = false)
    (isFolder : String → Bool) : filter.skips isFolder folder path =
      .ok (Rule.drops rules (candidate (ofString folder.text) below)
        (lines.any asksForFolders && isFolder path)) := by
  rcases readOn read with ⟨rfl, rfl | rfl⟩ | ⟨again, relisted, rfl⟩
  · cases listed
    rw [Rule.noRuleDrops]
    rfl
  · cases inside
  · cases listed.unique relisted
    simp [skips, inside, found, filled, judgeUnrooted _ unrooted]

end Filter
end FolderWatch.Exclude
