import FolderWatch.Proofs.Exclude.Lookup

/-! Lines added behind others, as those of a run behind those of a settings file. They turn the
verdict on an entry one way only, also where they are the first to ask which entries are folders. -/
namespace FolderWatch.Exclude.Filter

variable {folders : List Folder} {lines added : List String} {fewer filter : Filter}

/-- Behind a list, lines that take nothing back keep every entry dropped that was dropped without
them, and lines that only take back drop none that was not. -/
theorem addedLinesTurnOneWay (base : ofLines folders lines = .ok fewer)
    (grown : ofLines folders (lines ++ added) = .ok filter) (isFolder : String → Bool)
    (folder : Folder) (path : String) :
    ((∀ line ∈ added, line.toList.head? ≠ some '!') →
        fewer.skips isFolder folder path = .ok true →
          filter.skips isFolder folder path = .ok true) ∧
      ((∀ line ∈ added, line.toList.head? = some '!') →
        filter.skips isFolder folder path = .ok true →
          fewer.skips isFolder folder path = .ok true) := by
  rw [skipsIff base, skipsIff grown]
  have asked : lines.any asksForFolders = true →
      (lines.any asksForFolders && isFolder path) =
        ((lines ++ added).any asksForFolders && isFolder path) := by
    intro asks
    rw [List.any_append, asks, Bool.true_or]
  constructor
  · rintro unmarked ⟨inside, rules, listed, below, found, filled, unrooted, dropped⟩
    obtain ⟨all, whole⟩ := readListed grown inside
    obtain ⟨first, extra, again, last, rfl⟩ := whole.append
    cases listed.unique again
    rw [lookedUp listed asked, Rule.dropsIff] at dropped
    have still := Rule.answerMore (last.dropping unmarked) dropped
    exact ⟨inside, rules ++ extra, whole, below, found, filled, unrooted, Rule.dropsIff.mpr still⟩
  · rintro marked ⟨inside, all, listed, below, found, filled, unrooted, dropped⟩
    obtain ⟨rules, extra, first, last, rfl⟩ := listed.append
    rw [Rule.dropsIff] at dropped
    have kept := Rule.dropsIff.mpr (Rule.answerLess (last.takingBack marked) dropped)
    refine ⟨inside, rules, first, below, found, filled, unrooted, ?_⟩
    rw [lookedUp first asked]
    exact kept

/-- Comments and a line for folders behind `*.log`, and a line that takes back one entry at the
top only. -/
theorem addedFolderLine : ∃ fewer more spared,
    ofLines [.ofText "/srv"] ["*.log"] = .ok fewer ∧
      ofLines [.ofText "/srv"] (["*.log"] ++ ["# folders", "build/"]) = .ok more ∧
      ofLines [.ofText "/srv"] (["*.log"] ++ ["!/keep.log"]) = .ok spared ∧
      fewer.looksUp = false ∧ more.looksUp = true ∧
      more.skips (fun _ => true) (.ofText "/srv") "/srv/src/a.log" = .ok true ∧
      spared.skips (fun _ => true) (.ofText "/srv") "/srv/src/keep.log" = .ok true ∧
      fewer.skips (fun _ => true) (.ofText "/srv") "/srv/src/keep.log" = .ok true := by
  let logs : Rule := ⟨.leading :: .star :: ".log".toList.map .literal, false, false⟩
  let build : Rule := ⟨.leading :: "build".toList.map .literal, false, true⟩
  let kept : Rule := ⟨"keep.log".toList.map .literal, true, false⟩
  have base : ofLines [.ofText "/srv"] ["*.log"] = .ok ⟨[.ofText "/srv"], [logs], false⟩ := rfl
  have grown : ofLines [.ofText "/srv"] (["*.log"] ++ ["# folders", "build/"]) =
      .ok ⟨[.ofText "/srv"], [logs, build], true⟩ := rfl
  have back : ofLines [.ofText "/srv"] (["*.log"] ++ ["!/keep.log"]) =
      .ok ⟨[.ofText "/srv"], [logs, kept], false⟩ := rfl
  have still : skips (fun _ => true) ⟨[.ofText "/srv"], [logs, kept], false⟩ (.ofText "/srv")
      "/srv/src/keep.log" = .ok true := by decide +kernel
  refine ⟨_, _, _, base, grown, back, rfl, rfl, ?_, still, ?_⟩
  · exact (addedLinesTurnOneWay base grown _ _ _).1 (by decide) (by decide +kernel)
  · exact (addedLinesTurnOneWay base back _ _ _).2 (by decide) still

end FolderWatch.Exclude.Filter
