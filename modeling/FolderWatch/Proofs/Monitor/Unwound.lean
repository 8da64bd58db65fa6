import FolderWatch.Proofs.Exclude.Kept
import FolderWatch.Proofs.Monitor.Handed
import FolderWatch.Proofs.Monitor.Tick

/-! Ticks that do not come back. Such a tick ends at a folder whose next outcome it has taken
already: its filter does not come to the end of the events in it, and nothing of them is handed on. -/
namespace FolderWatch.Monitor

variable {isFolder : String → Bool} {m : Monitor}

/-- A tick that unwinds is over with the folders in front of one. From that one it has taken an
outcome and handed on nothing, and those behind it are as they were. -/
theorem unwindsAtOne (sound : m.Sound) {panic : Panic}
    (unwound : (m.tick isFolder).2.cut = some (.panic panic)) :
    ∃ f late o,
      m.folders = (m.tick isFolder).2.visits.map Visit.folder ++ f :: late ∧
      (m.source.script f).outcomes = o :: ((m.tick isFolder).1.source.script f).outcomes ∧
      m.filtered isFolder f o = .error panic ∧
      (∀ g ∈ f :: late, (m.tick isFolder).2.handed g = []) ∧
      ∀ g ∈ late, (m.tick isFolder).1.lane g = m.lane g := by
  have halt := (tickSwept isFolder sound).halt
  rw [unwound] at halt
  generalize whole : m.folders = fs at halt
  cases halt with
  | struck visits f late cut failed left missed =>
    obtain ⟨o, taken, unkept⟩ := Lane.visitUnwinds failed
    have takes := Lane.visitTakes (m.surroundings isFolder f) f (m.lane f)
    rw [taken, ← left] at takes
    have once := sound.once
    rw [whole] at once
    refine ⟨f, late, o, rfl, takes, unkept, fun g behind => ?_, missed⟩
    apply Tick.handedUnvisited
    intro early
    exact (List.nodup_append.mp once).2.2 g early g behind rfl

theorem tickReturns (sound : m.Sound)
    (answers : ∀ f ∈ m.folders, ∀ path, m.filter.Answers isFolder f path) :
    (m.tick isFolder).2.returns = true := by
  cases cut : (m.tick isFolder).2.cut with
  | none => exact Tick.returnsHealthy cut
  | some cut' =>
    cases cut' with
    | fault e => exact Tick.returnsFault cut
    | panic panic =>
      obtain ⟨f, late, o, whole, -, unkept, -⟩ := unwindsAtOne sound cut
      have inside : f ∈ m.folders := whole ▸ List.mem_append_right _ List.mem_cons_self
      obtain ⟨kept, left⟩ := Exclude.Filter.keepAnswers (answers f inside)
        (o.decoded m.settings.bufferBytes f)
      cases unkept.symm.trans left

/-- Without a rule, or over absolute folders alone, every tick comes back. -/
theorem tickReturnsRooted (sound : m.Sound)
    (harmless : m.filter.rules = [] ∨
      ∀ f ∈ m.folders, Path.isAbsolute (Utf8.ofString f.text) = true) :
    (m.tick isFolder).2.returns = true := by
  apply tickReturns sound
  intro f inside path
  rcases harmless with unruled | absolute
  · exact Exclude.Filter.answersUnruled unruled f isFolder path
  · exact Exclude.Filter.answersAbsolute (absolute f inside) m.filter isFolder path

end FolderWatch.Monitor
