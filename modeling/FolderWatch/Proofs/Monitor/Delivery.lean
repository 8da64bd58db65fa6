import FolderWatch.Proofs.Monitor.Handed
import FolderWatch.Proofs.Monitor.History
import FolderWatch.Record.Draft

/-! What is handed on for a folder is what was laid down for it: every outcome is taken once and in
order, over histories of any length in which no tick is cut short. -/
namespace FolderWatch.Monitor

variable {isFolder : String → Bool} {m : Monitor} {f : Folder}

/-- What a tick takes for a folder: the next outcome, if its visit finds a session or opens one. -/
def takenNext (isFolder : String → Bool) (m : Monitor) (f : Folder) : List Outcome :=
  if (Table.get? m.registry f).isSome || (m.tick isFolder).2.opens f then
    (m.source.script f).outcomes.take 1
  else []

theorem deliveredKept {o : Outcome} {kept : List Event} (left : m.filtered isFolder f o = .ok kept) :
    m.delivered isFolder f o = kept := by
  rw [delivered, left]
  rfl

theorem tickDelivers (sound : m.Sound) (inside : f ∈ m.folders)
    (healthy : (m.tick isFolder).2.cut = none) :
    (m.source.script f).outcomes =
        m.takenNext isFolder f ++ ((m.tick isFolder).1.source.script f).outcomes ∧
      (∀ o ∈ m.takenNext isFolder f, m.filtered isFolder f o = .ok (m.delivered isFolder f o)) ∧
      (m.tick isFolder).2.handed f = (m.takenNext isFolder f).flatMap (m.delivered isFolder f) := by
  have swept := tickSwept isFolder sound
  obtain ⟨v, member, rfl, ended, left⟩ := swept.comesTo healthy inside
  have once := swept.halt.once sound.once
  have same : m.takenNext isFolder v.folder =
      ((m.lane v.folder).visit (m.surroundings isFolder v.folder) v.folder).taken := by
    rw [Lane.visitTaken ended, takenNext, Tick.opensVisit once member]
    rfl
  have takes := Lane.visitTakes (m.surroundings isFolder v.folder) v.folder (m.lane v.folder)
  obtain ⟨hands, nothing⟩ := Lane.visitHands (keepNothing isFolder m v.folder) ended
  rw [← left, ← same] at takes
  rw [← same] at hands nothing
  refine ⟨takes, fun o inside => ?_, ?_⟩
  · rw [deliveredKept (hands o inside)]
    exact hands o inside
  · rw [Tick.handed, Tick.batchOfVisit once member]
    have short : (m.takenNext isFolder v.folder).length ≤ 1 := by
      unfold takenNext
      split
      · exact List.length_take_le 1 _
      · exact Nat.zero_le 1
    cases queue : m.takenNext isFolder v.folder with
    | nil => exact nothing queue
    | cons o rest =>
      rw [queue] at short hands
      cases List.length_eq_zero_iff.mp (Nat.le_zero.mp (Nat.le_of_succ_le_succ short))
      rw [List.flatMap_singleton, deliveredKept (hands o List.mem_cons_self)]

def taken (isFolder : String → Bool) (m : Monitor) (f : Folder) : List Act → List (List Outcome)
  | [] => []
  | .edit e :: acts => (m.edit e).taken isFolder f acts
  | .tick :: acts => m.takenNext isFolder f :: (m.tick isFolder).1.taken isFolder f acts

def laid (f : Folder) : List Act → List Outcome
  | [] => []
  | .edit (.push g o) :: acts => if g = f then o :: laid f acts else laid f acts
  | _ :: acts => laid f acts

theorem editLays (m : Monitor) (e : Source.Edit) (f : Folder) (acts : List Act) :
    ((m.edit e).source.script f).outcomes ++ laid f acts =
      (m.source.script f).outcomes ++ laid f (.edit e :: acts) := by
  cases e with
  | push g o =>
    by_cases same : g = f
    · subst same
      simp only [edit, Source.edit, Source.scriptSet, laid, if_true, List.append_assoc,
        List.singleton_append]
    · simp only [edit, Source.edit, laid, same, if_false,
        Source.scriptSetOther _ _ (Ne.symm same)]
  | failOpens g n => exact congrArg (· ++ _) (m.source.setKeeps Script.outcomes f g _ rfl)
  | failReads g n => exact congrArg (· ++ _) (m.source.setKeeps Script.outcomes f g _ rfl)
  | failCompletions b => rfl
  | failResets b => rfl

theorem historyDelivers (sound : m.Sound) (inside : f ∈ m.folders) (acts : List Act)
    (healthy : ∀ t ∈ (m.history isFolder acts).2, t.cut = none) :
    (m.source.script f).outcomes ++ laid f acts =
        (m.taken isFolder f acts).flatten ++
          ((m.history isFolder acts).1.source.script f).outcomes ∧
      (∀ o ∈ (m.taken isFolder f acts).flatten,
        m.filtered isFolder f o = .ok (m.delivered isFolder f o)) ∧
      (m.history isFolder acts).2.map (·.handed f) =
        (m.taken isFolder f acts).map (·.flatMap (m.delivered isFolder f)) := by
  induction acts generalizing m with
  | nil => exact ⟨List.append_nil _, fun _ member => (nomatch member), rfl⟩
  | cons act acts ih =>
    cases act with
    | edit e =>
      obtain ⟨laidDown, kept, handed⟩ := ih (sound.edited e) inside healthy
      exact ⟨(editLays m e f acts).symm.trans laidDown, kept, handed⟩
    | tick =>
      -- What this tick takes stands in front of what the later ones take.
      have swept := tickSwept isFolder sound
      obtain ⟨first, later⟩ := List.forall_mem_cons.mp healthy
      obtain ⟨takes, keptNow, given⟩ := tickDelivers sound inside first
      obtain ⟨laidDown, kept, handed⟩ :=
        ih (swept.sound (Tick.returnsHealthy first)) (swept.frame.folders ▸ inside) later
      have filters : (m.tick isFolder).1.filtered isFolder f = m.filtered isFolder f := by
        funext o
        simp only [filtered, swept.frame.filter, swept.frame.settings]
      have delivers : (m.tick isFolder).1.delivered isFolder f = m.delivered isFolder f := by
        funext o
        rw [delivered, filters, delivered]
      rw [filters, delivers] at kept
      rw [delivers] at handed
      simp only [taken, history, List.flatten_cons, List.map_cons]
      refine ⟨?_, ?_, ?_⟩
      · rw [takes, List.append_assoc, List.append_assoc, ← laidDown]
        rfl
      · intro o member
        rcases List.mem_append.mp member with now | after
        · exact keptNow o now
        · exact kept o after
      · rw [given, handed]

theorem historyVisits (sound : m.Sound) (acts : List Act)
    (healthy : ∀ t ∈ (m.history isFolder acts).2, t.cut = none) {t : Tick}
    (member : t ∈ (m.history isFolder acts).2) : t.visits.map Visit.folder = m.folders := by
  induction acts generalizing m with
  | nil => cases member
  | cons act acts ih =>
    cases act with
    | edit e =>
      have visits := ih (sound.edited e) healthy member
      exact visits
    | tick =>
      have swept := tickSwept isFolder sound
      obtain ⟨first, later⟩ := List.forall_mem_cons.mp healthy
      rcases List.mem_cons.mp member with now | after
      · rw [now]
        exact (first ▸ swept.halt).whole
      · exact (ih (swept.sound (Tick.returnsHealthy first)) later after).trans swept.frame.folders

/-- Where no tick is cut short, the outcomes of a folder are taken one after the other, one by each
visit that finds a session or opens one, and each visit hands on what is kept of the one it took. -/
theorem deliveredOnceInOrder {folders : List Folder} {settings : Settings}
    (made : create .fresh folders settings = .ok m) (acts : List Act)
    (healthy : ∀ t ∈ (m.history isFolder acts).2, t.cut = none) :
    (∀ f ∈ folders,
      laid f acts = (m.taken isFolder f acts).flatten ++
        ((m.history isFolder acts).1.source.script f).outcomes ∧
      (∀ o ∈ (m.taken isFolder f acts).flatten,
        m.filtered isFolder f o = .ok (m.delivered isFolder f o)) ∧
      (m.history isFolder acts).2.map (·.handed f) =
        (m.taken isFolder f acts).map (·.flatMap (m.delivered isFolder f))) ∧
    ∀ t ∈ (m.history isFolder acts).2,
      t.visits.map Visit.folder = m.folders ∧ m.folders.Nodup ∧
        t.batches = m.folders.filterMap t.batchOf := by
  have sound := Sound.created made
  obtain ⟨-, -, watched, -, fresh⟩ := createInverse made
  constructor
  · intro f listed
    have inside : f ∈ m.folders := watched ▸ (distinctMembers folders f).mpr listed
    have ran := historyDelivers sound inside acts healthy
    rw [fresh] at ran
    exact ran
  · intro t member
    have visits := historyVisits sound acts healthy member
    have inOrder := Tick.batchesInOrder (t := t) (visits ▸ sound.once)
    exact ⟨visits, sound.once, visits ▸ inOrder⟩

/-- One session goes because its next read is refused, the next because its read fails. -/
theorem deliveredAcrossEvictions :
    let d := Folder.ofText "d"
    let records := fun name => Outcome.records (Draft.push .empty 1 name).finish.1
    let created := fun path => Event.mk path ⟨[.created]⟩
    let m : Monitor := ⟨.default, [d], .empty, [], .fresh, 0⟩
    let acts : List Act := [.edit (.push d (records "a")), .edit (.push d (records "b")), .tick,
      .edit (.failReads d 1), .tick, .edit (.push d (.failure .permissionDenied)),
      .edit (.push d (records "c")), .tick, .tick]
    let ts := (m.history (fun _ => false) acts).2
    create .fresh [d, d] .default = .ok m ∧
      (∀ t ∈ ts, t.cut = none) ∧
      ts.flatMap (·.visits.map Visit.evicted) = [false, true, true, false] ∧
      m.taken (fun _ => false) d acts =
        [[records "a"], [records "b"], [.failure .permissionDenied], [records "c"]] ∧
      ts.map (·.handed d) = [[created "d/a"], [created "d/b"], [], [created "d/c"]] := by
  intro d records created m acts ts
  have made : create .fresh [d, d] .default = .ok m := rfl
  have healthy : ∀ t ∈ (m.history (fun _ => false) acts).2, t.cut = none := by decide +kernel
  have takes : m.taken (fun _ => false) d acts =
      [[records "a"], [records "b"], [.failure .permissionDenied], [records "c"]] := by decide +kernel
  obtain ⟨-, -, handed⟩ := (deliveredOnceInOrder made acts healthy).1 d List.mem_cons_self
  refine ⟨made, healthy, by decide +kernel, takes, ?_⟩
  rw [handed, takes]
  decide +kernel

/-- With `a` watched and the line `x`, the entry `a//b` is seen as `/b`, which has a root: the tick
takes the record and does not come back. No line drops the entry. -/
theorem takenAndLost :
    let a := Folder.ofText "a"
    let records := Outcome.records (Draft.push .empty 1 "a//b").finish.1
    let acts : List Act := [.edit (.push a records), .tick]
    ∃ m, create .fresh [a] { Settings.default with exclude := ["x"] } = .ok m ∧
      (m.history (fun _ => false) acts).2.map Tick.cut =
        [some (.panic ⟨"path is expected to be under the root"⟩)] ∧
      laid a acts = [records] ∧
      ((m.history (fun _ => false) acts).1.source.script a).outcomes = [] ∧
      records.decoded m.settings.bufferBytes a = [⟨"a/a//b", ⟨[.created]⟩⟩] ∧
      Exclude.Rule.drops m.filter.rules (Utf8.ofString "a//b") false = false ∧
      (m.history (fun _ => false) acts).2.map (·.handed a) = [[]] := by
  intro a records acts
  exact ⟨_, rfl, by decide +kernel, by decide +kernel, by decide +kernel, by decide +kernel,
    by decide +kernel, by decide +kernel⟩

end FolderWatch.Monitor
