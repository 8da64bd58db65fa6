import FolderWatch.FileTree.Basic
import FolderWatch.Proofs.Exclude.Seen

/-! What lies below a dropped entry. Where no line takes anything back, everything below it is
dropped as well: the rules are asked about the entry once more, as a folder on the way. -/
namespace FolderWatch.Exclude.Filter

open FolderWatch.Path (isFiller join split Trimmed)
open Utf8 (ofString)

variable {below : List UInt8} {lines : List String} {folders : List Folder} {folder : Folder}
  {filter : Filter} {name inner : String}

theorem entryFurther (folder : Folder) (name inner : String) :
    ofString (folder.entry (name ++ "/" ++ inner)) =
      ofString (folder.entry name) ++ Path.slash :: ofString inner := by
  have separator : ofString "/" = [Path.slash] := by decide
  unfold Folder.entry
  split <;> simp [Utf8.encodeAppend, separator]

theorem seenFurther (absolute : Path.isAbsolute (ofString folder.text) = true)
    (found : Path.below? (ofString folder.text) (ofString (folder.entry name)) = some below)
    (filled : below ≠ []) (inner : String) :
    ∃ ss tt, Trimmed ss ∧ Trimmed (ss ++ tt) ∧ candidate (ofString folder.text) below = join ss ∧
      Path.below? (ofString folder.text) (ofString (folder.entry (name ++ "/" ++ inner))) =
        some (join (ss ++ tt)) ∧ join (ss ++ tt) ≠ [] ∧
      candidate (ofString folder.text) (join (ss ++ tt)) = join (ss ++ tt) ∧
      Path.isAbsolute (join (ss ++ tt)) = false ∧
        (tt = [] ↔ ∀ s ∈ split (ofString inner), isFiller s = true) := by
  obtain ⟨ss, tt, trim, trimFurther, rfl, further, same⟩ :=
    Path.belowFurther (Path.absoluteFilled absolute) found filled (ofString inner)
  have some : ss ≠ [] := by
    rintro rfl
    exact filled rfl
  have start := trim.start some
  have startFurther := trimFurther.start (List.append_ne_nil_of_left_ne_nil some tt)
  exact ⟨ss, tt, trim, trimFurther, candidateAbsolute absolute start.2,
    by rw [entryFurther, further], startFurther.1, candidateAbsolute absolute startFurther.2,
    unrootedIff.mpr (namedStart startFurther.2).1, same⟩

/-- Below a dropped entry everything is dropped if no line takes anything back: whatever is named
any further, and what is the same folder under a longer spelling, unless it is not found to be one
under that. -/
theorem droppedWithAllBelow (read : ofLines folders lines = .ok filter)
    (unmarked : ∀ line ∈ lines, line.toList.head? ≠ some '!')
    (absolute : Path.isAbsolute (ofString folder.text) = true) (name inner : String)
    (isFolder : String → Bool)
    (further : (∃ s ∈ split (ofString inner), isFiller s = false) ∨
      (isFolder (folder.entry name) = true →
        isFolder (folder.entry (name ++ "/" ++ inner)) = true))
    (dropped : filter.skips isFolder folder (folder.entry name) = .ok true) :
    filter.skips isFolder folder (folder.entry (name ++ "/" ++ inner)) = .ok true := by
  rw [skipsIff read] at dropped ⊢
  obtain ⟨inside, rules, listed, below, found, filled, -, dropped⟩ := dropped
  obtain ⟨ss, tt, trim, trimFurther, seen, foundFurther, filledFurther, seenThere, unrooted, same⟩ :=
    seenFurther absolute found filled inner
  rw [← seenThere] at unrooted
  refine ⟨inside, rules, listed, _, foundFurther, filledFurther, unrooted, ?_⟩
  rw [seen] at dropped
  rw [seenThere]
  apply Rule.dropsFurther (listed.dropping unmarked) trim trimFurther dropped
  intro nothing looked
  rw [Bool.and_eq_true] at looked ⊢
  rcases further with ⟨s, among, name⟩ | folder
  · rw [same.mp nothing s among] at name
    cases name
  · exact ⟨looked.1, folder looked.2⟩

theorem droppedBelowBuild : ∃ filter, ofLines [.ofText "/srv"] ["build/"] = .ok filter ∧
    filter.skips (· == "/srv/build") (.ofText "/srv") "/srv/build/out/../app" = .ok true ∧
    filter.skips (fun _ => true) (.ofText "/srv") "/srv/build/./" = .ok true := by
  have read : ofLines [.ofText "/srv"] ["build/"] = .ok ⟨[.ofText "/srv"],
      [⟨.leading :: "build".toList.map .literal, false, true⟩], true⟩ := rfl
  have unmarked : ∀ line ∈ ["build/"], line.toList.head? ≠ some '!' := by simp
  have absolute : Path.isAbsolute (ofString (Folder.ofText "/srv").text) = true := by decide
  refine ⟨_, read, ?_, ?_⟩
  · exact droppedWithAllBelow read unmarked absolute "build" "out/../app" _
      (.inl (by decide +kernel)) (by decide +kernel)
  · exact droppedWithAllBelow read unmarked absolute "build" "./" _
      (.inr fun _ => rfl) (by decide +kernel)

theorem skipsSpelledOn (read : ofLines folders lines = .ok filter)
    (absolute : Path.isAbsolute (ofString folder.text) = true)
    (found : Path.below? (ofString folder.text) (ofString (folder.entry name)) = some below)
    (filled : below ≠ []) (fillers : ∀ s ∈ split (ofString inner), isFiller s = true)
    (isFolder : String → Bool) :
    filter.skips isFolder folder (folder.entry (name ++ "/" ++ inner)) = .ok true ↔
      filter.skips (fun _ => isFolder (folder.entry (name ++ "/" ++ inner))) folder
        (folder.entry name) = .ok true := by
  obtain ⟨ss, tt, -, -, seen, foundFurther, filledFurther, seenThere, unrooted, same⟩ :=
    seenFurther absolute found filled inner
  rw [same.mpr fillers, List.append_nil] at foundFurther filledFurther seenThere unrooted
  simp only [skipsIff read, found, foundFurther, Option.some.injEq, exists_eq_left', seen,
    seenThere, ne_eq, filled, filledFurther, unrooted]

theorem tooLongForFolder {tree : FileTree} {cwd : Location} {path : List UInt8}
    (long : FileTree.maxPathLength < path.length) : tree.isFolder cwd path = false := by
  by_cases zero : 0 ∈ path
  · simp [FileTree.isFolder, FileTree.find, FileTree.locate, FileTree.reach, zero]
  · simp [FileTree.isFolder, FileTree.find, FileTree.locate, long, zero]

def separators (n : Nat) : String := String.ofList (List.replicate n '/')

theorem separatorBytes (n : Nat) : ofString (separators n) = List.replicate n Path.slash := by
  have single : String.utf8EncodeChar '/' = [Path.slash] := rfl
  rw [ofString, separators, String.toList_ofList, Utf8.encode, List.flatMap_replicate, single]
  simp

theorem separatorsFill (n : Nat) : ∀ s ∈ split (List.replicate n Path.slash), isFiller s = true := by
  induction n with
  | zero => simp [split, isFiller]
  | succ n ih =>
    rw [List.replicate_succ, Path.splitSlash]
    exact List.forall_mem_cons.mpr ⟨rfl, ih⟩

/-- The folder `/..` is dropped as a folder. With so many separators behind it that nothing is found
there, it is no folder and is kept. -/
theorem longSpellingKept : ¬ ∀ (tree : FileTree) (cwd : Location) (folders : List Folder)
    (lines : List String) (filter : Filter) (folder : Folder) (name inner : String),
    ofLines folders lines = .ok filter → (∀ line ∈ lines, line.toList.head? ≠ some '!') →
      Path.isAbsolute (ofString folder.text) = true → inner ≠ "" →
        filter.skips (tree.isFolder cwd <| ofString ·) folder (folder.entry name) = .ok true →
          filter.skips (tree.isFolder cwd <| ofString ·) folder
            (folder.entry (name ++ "/" ++ inner)) = .ok true := by
  intro always
  have read : ofLines [.ofText "/"] ["/../"] =
      .ok ⟨[.ofText "/"], [⟨"..".toList.map .literal, false, true⟩], true⟩ := rfl
  have absolute : Path.isAbsolute (ofString (Folder.ofText "/").text) = true := by decide
  have found : Path.below? (ofString (Folder.ofText "/").text)
      (ofString ((Folder.ofText "/").entry "..")) = some Path.wayUp := by decide +kernel
  have bytes := separatorBytes 4096
  have long : FileTree.maxPathLength <
      (ofString ((Folder.ofText "/").entry (".." ++ "/" ++ separators 4096))).length := by
    rw [entryFurther, bytes, List.length_append, List.length_cons, List.length_replicate,
      FileTree.maxPathLength]
    omega
  have some : separators 4096 ≠ "" := by
    intro empty
    rw [empty] at bytes
    cases bytes
  have dropped := always .empty [] _ _ _ (.ofText "/") ".." (separators 4096) read (by simp)
    absolute some (by decide +kernel)
  rw [skipsSpelledOn read absolute found (by decide) (bytes ▸ separatorsFill 4096),
    tooLongForFolder long] at dropped
  revert dropped
  decide +kernel

end FolderWatch.Exclude.Filter
