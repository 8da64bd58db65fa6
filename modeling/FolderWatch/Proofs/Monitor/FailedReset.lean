import FolderWatch.Proofs.Monitor.Handed
import FolderWatch.Proofs.Monitor.History
import FolderWatch.Record.Draft

/-! Events read just before a completion cannot be reset. The tick is cut short there, and what the
read brought is not handed on; a read that cannot be issued anew loses nothing. -/
namespace FolderWatch

namespace Lane

variable {c : Surroundings} {f : Folder} {bytes : List UInt8} {rest : List Outcome}

theorem attendRecords {x : Script} (opened : Bool) (queued : x.outcomes = .records bytes :: rest)
    (ready : 0 < bytes.length ∧ bytes.length ≤ c.size) :
    (c.failResets = true →
      (attend c f opened x).result = .error (.fault (.noReset f.text Source.invalidHandle))) ∧
    (c.failResets = false → ∀ fault, (attend c f opened x).result ≠ .error (.fault fault)) := by
  have answer : x.poll c.size c.failResets f =
      x.advanced.rearm c.failResets f (.changes ((Chain.read bytes).events f)) := by
    simp only [Script.poll, queued, List.headD_cons, Outcome.reading?, ready, and_self, if_true]
  constructor
  · intro fails
    unfold attend
    rw [answer]
    simp only [Script.rearm, fails, if_true]
  · intro works fault
    unfold attend
    rw [answer]
    simp only [Script.rearm, works, Bool.false_eq_true, if_false, Poll.isPending,
      Option.isNone_some, Bool.false_and]
    cases c.finding (some (.changes ((Chain.read bytes).events f))) <;> (intro same; cases same)

theorem visitRecords {l : Lane} (queued : l.script.outcomes = .records bytes :: rest)
    (popped : (l.visit c f).lane.script.outcomes = rest)
    (ready : 0 < bytes.length ∧ bytes.length ≤ c.size) :
    (c.failResets = true →
      (l.visit c f).result = .error (.fault (.noReset f.text Source.invalidHandle))) ∧
    (c.failResets = false → ∀ fault, (l.visit c f).result ≠ .error (.fault fault)) := by
  have same := l.script.startOutcomes (f := f) c.failCompletions
  have way := visited c f l
  generalize l.visit c f = done at way popped ⊢
  cases way with
  | held _ => exact attendRecords false queued ready
  | started _ answer =>
    rw [answer] at same
    exact attendRecords true (same.trans queued) ready
  | refused _ answer _ | struck _ answer _ =>
    rw [answer] at same
    have unchanged : rest = .records bytes :: rest := popped.symm.trans (same.trans queued)
    exact absurd unchanged (List.cons_ne_self _ _).symm

end Lane

namespace Monitor

variable {isFolder : String → Bool} {m n : Monitor} {f : Folder} {fs : List Folder}

theorem recordsHanded (sound : m.Sound) (returned : (m.tick isFolder).2.returns = true)
    (inside : f ∈ m.folders) {bytes : List UInt8} {rest : List Outcome}
    (queued : (m.source.script f).outcomes = .records bytes :: rest)
    (popped : ((m.tick isFolder).1.source.script f).outcomes = rest)
    (ready : 0 < bytes.length ∧ bytes.length ≤ m.settings.bufferBytes) :
    (m.source.failResets = false ∧
      m.filtered isFolder f (.records bytes) = .ok ((m.tick isFolder).2.handed f)) ∨
    (m.source.failResets = true ∧ (m.tick isFolder).2.handed f = [] ∧
      (m.tick isFolder).2.cut = some (.fault (.noReset f.text Source.invalidHandle))) := by
  have swept := tickSwept isFolder sound
  have once := swept.halt.once sound.once
  have shrunk : ((m.tick isFolder).1.lane f).script.outcomes = rest := popped
  rcases swept.halt.reaches sound.once inside with visited | missed | struck
  · obtain ⟨v, member, rfl⟩ := List.mem_map.mp visited
    obtain ⟨ended, left⟩ := swept.visited v member
    rw [left] at shrunk
    have ends := Lane.visitRecords queued shrunk ready
    have works : m.source.failResets = false := by
      cases fails : m.source.failResets with
      | false => rfl
      | true =>
        rw [ends.1 fails] at ended
        cases ended
    have takes := Lane.visitTakes (m.surroundings isFolder v.folder) v.folder (m.lane v.folder)
    have one : ((m.lane v.folder).visit (m.surroundings isFolder v.folder) v.folder).taken =
        [.records bytes] := by
      rw [shrunk] at takes
      have split : [.records bytes] ++ rest = _ ++ rest := queued.symm.trans takes
      exact (List.append_cancel_right split).symm
    have hands := (Lane.visitHands (keepNothing isFolder m v.folder) ended).1 (.records bytes)
      (one ▸ List.mem_cons_self)
    exact .inl ⟨works, by rw [Tick.handed, Tick.batchOfVisit once member]; exact hands⟩
  · have unchanged : (m.source.script f).outcomes = rest :=
      (congrArg (·.script.outcomes) missed).symm.trans popped
    exact absurd (unchanged.symm.trans queued) (List.cons_ne_self _ _).symm
  · obtain ⟨cut, stopped, fresh, failed, left⟩ := struck
    obtain ⟨e, rfl⟩ := Tick.cutReturns returned stopped
    rw [left] at shrunk
    have ends := Lane.visitRecords queued shrunk ready
    have fails : m.source.failResets = true := by
      cases works : m.source.failResets with
      | true => rfl
      | false => exact absurd failed (ends.2 works e)
    rw [ends.1 fails] at failed
    cases failed
    exact .inr ⟨fails, Tick.handedUnvisited fresh, stopped⟩

theorem handedUnlessResetFails (reached : Reachable m)
    (returned : (m.tick isFolder).2.returns = true) (inside : f ∈ m.folders)
    {bytes : List UInt8} {rest : List Outcome}
    (queued : (m.source.script f).outcomes = .records bytes :: rest)
    (popped : ((m.tick isFolder).1.source.script f).outcomes = rest)
    (ready : 0 < bytes.length ∧ bytes.length ≤ m.settings.bufferBytes) :
    (m.filter.keep isFolder f ((Chain.read bytes).events f) = .ok ((m.tick isFolder).2.handed f) ↔
      m.source.failResets = false ∨
        m.filter.keep isFolder f ((Chain.read bytes).events f) = .ok []) ∧
    (m.source.failResets = true → (m.tick isFolder).2.handed f = [] ∧
      (m.tick isFolder).2.cut = some (.fault (.noReset f.text Source.invalidHandle))) := by
  have own : m.filtered isFolder f (.records bytes) =
      m.filter.keep isFolder f ((Chain.read bytes).events f) := by
    simp only [filtered, Outcome.decoded, ready, and_self, if_true]
  rcases recordsHanded reached.sound returned inside queued popped ready with
    ⟨works, handed⟩ | ⟨fails, handed, fault⟩
  · rw [own] at handed
    refine ⟨⟨fun _ => .inl works, fun _ => handed⟩, fun fails => ?_⟩
    rw [works] at fails
    cases fails
  · rw [handed]
    refine ⟨⟨.inr, ?_⟩, fun _ => ⟨rfl, fault⟩⟩
    rintro (works | nothing)
    · rw [fails] at works
      cases works
    · exact nothing

theorem handedAlthoughNotReissued :
    let d := Folder.ofText "d"
    let bytes := (Draft.push .empty 1 "a").finish.1
    let made : Monitor := ⟨.default, [d], .empty, [], .fresh, 0⟩
    let opened := (made.tick fun _ => false).1
    let m := (opened.edit (.push d (.records bytes))).edit (.failReads d 1)
    create .fresh [d] .default = .ok made ∧ m.source.failResets = false ∧
      m.filter.keep (fun _ => false) d ((Chain.read bytes).events d) =
        .ok ((m.tick fun _ => false).2.handed d) := by
  intro d bytes made opened m
  have created : create .fresh [d] .default = .ok made := rfl
  have reached : Reachable m :=
    (((Reachable.created created).ticked (by decide)).edited _).edited _
  have returned : (m.tick fun _ => false).2.returns = true := by decide +kernel
  have inside : d ∈ m.folders := by decide
  have queued : (m.source.script d).outcomes = [.records bytes] := by decide
  have popped : ((m.tick fun _ => false).1.source.script d).outcomes = [] := by decide +kernel
  have ready : 0 < bytes.length ∧ bytes.length ≤ m.settings.bufferBytes := by decide
  have handed := handedUnlessResetFails reached returned inside queued popped ready
  exact ⟨created, by decide, handed.1.mpr (.inl (by decide))⟩

theorem failedResetLosesEvents :
    ¬ ∀ (isFolder : String → Bool) (m : Monitor) (f : Folder) (bytes : List UInt8)
        (rest : List Outcome), Reachable m → (m.tick isFolder).2.returns = true → f ∈ m.folders →
      (m.source.script f).outcomes = .records bytes :: rest →
      ((m.tick isFolder).1.source.script f).outcomes = rest →
      0 < bytes.length ∧ bytes.length ≤ m.settings.bufferBytes →
      m.filter.keep isFolder f ((Chain.read bytes).events f) =
        .ok ((m.tick isFolder).2.handed f) := by
  intro always
  let d := Folder.ofText "d"
  let bytes := (Draft.push .empty 1 "a").finish.1
  let made : Monitor := ⟨.default, [d], .empty, [], .fresh, 0⟩
  let m := (made.edit (.push d (.records bytes))).edit (.failResets true)
  have created : create .fresh [d] .default = .ok made := rfl
  have reached : Reachable m := ((Reachable.created created).edited _).edited _
  have handed := always (fun _ => false) m d bytes [] reached (by decide) List.mem_cons_self
    (by decide) (by decide) (by decide)
  revert handed
  decide +kernel

end Monitor
end FolderWatch
