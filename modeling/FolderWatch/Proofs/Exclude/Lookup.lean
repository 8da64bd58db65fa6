import FolderWatch.Proofs.Exclude.Lines
import FolderWatch.Proofs.Exclude.Seen

/-! When the file system is asked which entries are folders. The lines are read twice, once for
their rules and once for that question, and the question leaves out no line that could need its
answer. -/
namespace FolderWatch.Exclude.Filter

variable {folders : List Folder} {lines : List String} {filter : Filter} {rules : List Rule}
  {path : List UInt8} {one other : Bool}

/-- The same filter, except that it asks of every entry whether it is a folder. -/
def asking (f : Filter) : Filter := { f with looksUp := true }

theorem lookedUp (listed : Listed lines rules)
    (asked : lines.any asksForFolders = true → one = other) :
    Rule.drops rules path one = Rule.drops rules path other := by
  cases silent : lines.any asksForFolders with
  | true => rw [asked silent]
  | false =>
    have files := listed.unasked silent
    simp only [Rule.drops, verdictOfFiles files path one, verdictOfFiles files path other]

theorem onlyFoldersAsked (read : ofLines folders lines = .ok filter) :
    ∀ rule ∈ filter.rules, rule.onlyFolders = true → filter.looksUp = true := by
  rcases readOn read with ⟨rfl, -⟩ | ⟨rules, listed, rfl⟩
  · intro rule inside
    cases inside
  · intro rule inside only
    cases silent : lines.any asksForFolders with
    | true => rfl
    | false =>
      have any := listed.unasked silent rule inside
      rw [any] at only
      cases only

/-- A filter that does not ask which entries are folders has no rule that depends on it, so it
drops what it would drop if it asked of every entry. -/
theorem sparedQuestionsTellNothing (read : ofLines folders lines = .ok filter)
    (isFolder : String → Bool) (folder : Folder) (path : String) :
    (∀ rule ∈ filter.rules, rule.onlyFolders = true → filter.looksUp = true) ∧
      filter.skips isFolder folder path = filter.asking.skips isFolder folder path := by
  refine ⟨onlyFoldersAsked read, ?_⟩
  rcases readOn read with ⟨rfl, -⟩ | ⟨rules, listed, rfl⟩
  · rfl
  · have asked : lines.any asksForFolders = true →
        (lines.any asksForFolders && isFolder path) = (true && isFolder path) := by
      intro asks
      rw [asks]
    simp only [skips, judge, asking, lookedUp listed asked]
    rfl

/-- A slash between a backslash and blanks asks which entries are folders, and its rule depends on
the answer. One in front of an escaped blank does not, and there is nothing to know. -/
theorem slashesAskedAbout : ∃ folderLine plainLine,
    ofLines [.ofText "/srv"] ["*.log", "!cache\\/\t "] = .ok folderLine ∧
      ofLines [.ofText "/srv"] ["*.log", "notes/\\ "] = .ok plainLine ∧
      folderLine.looksUp = true ∧ plainLine.looksUp = false ∧
      (∃ rule ∈ folderLine.rules, rule.onlyFolders = true) ∧
      ∀ isFolder : String → Bool,
        plainLine.skips isFolder (.ofText "/srv") "/srv/cache/a.log" =
          plainLine.asking.skips isFolder (.ofText "/srv") "/srv/cache/a.log" := by
  let logs : Rule := ⟨.leading :: .star :: ".log".toList.map .literal, false, false⟩
  let cache : Rule := ⟨.leading :: "cache".toList.map .literal, true, true⟩
  let notes : Rule := ⟨"notes/ ".toList.map .literal, false, false⟩
  have marked : ofLines [.ofText "/srv"] ["*.log", "!cache\\/\t "] =
      .ok ⟨[.ofText "/srv"], [logs, cache], true⟩ := rfl
  have unmarked : ofLines [.ofText "/srv"] ["*.log", "notes/\\ "] =
      .ok ⟨[.ofText "/srv"], [logs, notes], false⟩ := rfl
  have last : cache ∈ [logs, cache] := List.mem_cons_of_mem _ List.mem_cons_self
  refine ⟨_, _, marked, unmarked, ?_, rfl, ⟨cache, last, rfl⟩, ?_⟩
  · exact (sparedQuestionsTellNothing marked (fun _ => true) (.ofText "/srv") "").1 cache last rfl
  · exact fun isFolder => (sparedQuestionsTellNothing unmarked isFolder _ _).2

end FolderWatch.Exclude.Filter
