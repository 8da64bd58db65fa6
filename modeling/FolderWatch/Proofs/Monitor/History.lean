import FolderWatch.Monitor.Run
import FolderWatch.Proofs.Monitor.Tick

/-! Lives of a monitor that alone uses a fresh source: edits of the script, ticks and runs in any
order. The monitor is sound throughout. -/
namespace FolderWatch

theorem Registry.clearAll (source : Source) (sessions : List Session) (log : List Message)
    (live : source.live = sessions.flatMap Session.handles) (once : source.live.Nodup)
    (waiting : ∀ s ∈ sessions, s.outstanding = true ∧ s.request.inFlight = true) :
    (sessions.foldl (fun done s =>
        let released := s.release done.source
        ⟨(), released.source, done.log ++ released.log⟩) (⟨(), source, log⟩ : Done Unit)).source =
      { source with live := [], cancels := source.cancels + sessions.length } := by
  induction sessions generalizing source log with
  | nil =>
    simp only [List.flatMap_nil] at live
    simp only [List.foldl_nil, List.length_nil, Nat.add_zero, ← live]
  | cons s sessions ih =>
    obtain ⟨outstanding, inFlight⟩ := waiting s List.mem_cons_self
    have called : (s.release source).source =
        { source with live := sessions.flatMap Session.handles, cancels := source.cancels + 1 } := by
      simp only [List.flatMap_cons, Session.handles] at live
      rw [live] at once
      have apart : ([] ++ [s.dir, s.completion] ++ sessions.flatMap Session.handles).Nodup := once
      have closed := Source.closePair (Source.onceApart apart)
      simp only [List.nil_append] at closed
      simp only [Session.release, outstanding, if_true, Source.cancel, inFlight, Source.close, live,
        closed]
    have fewer : (sessions.flatMap Session.handles).Nodup := by
      rw [live, List.flatMap_cons] at once
      exact (List.nodup_append.mp once).2.1
    rw [List.foldl_cons, ih]
    · simp only [called, List.length_cons, Nat.add_assoc, Nat.add_comm 1]
    · rw [called]
    · rw [called]
      exact fewer
    · exact fun s inside => waiting s (List.mem_cons_of_mem _ inside)

namespace Monitor

variable {m : Monitor}

theorem distinctFrom (fs seen : List Folder) (once : seen.Nodup) :
    let kept := fs.foldl (fun seen f => if seen.contains f then seen else seen ++ [f]) seen
    kept.Nodup ∧ ∀ f, f ∈ kept ↔ f ∈ seen ∨ f ∈ fs := by
  induction fs generalizing seen with
  | nil => exact ⟨once, fun f => by simp⟩
  | cons g fs ih =>
    rw [List.foldl_cons]
    cases known : seen.contains g with
    | true =>
      have inside := List.contains_iff_mem.mp known
      obtain ⟨nodup, members⟩ := ih seen once
      refine ⟨nodup, fun f => (members f).trans ?_⟩
      rw [List.mem_cons]
      constructor
      · rintro (old | later)
        · exact .inl old
        · exact .inr (.inr later)
      · rintro (old | same | later)
        · exact .inl old
        · exact .inl (same ▸ inside)
        · exact .inr later
    | false =>
      have outside : g ∉ seen := fun inside => by
        rw [List.contains_iff_mem.mpr inside] at known
        cases known
      have longer : (seen ++ [g]).Nodup := by
        refine List.nodup_append.mpr ⟨once, by simp, ?_⟩
        intro f old h new same
        rw [List.mem_singleton.mp new] at same
        exact outside (same ▸ old)
      obtain ⟨nodup, members⟩ := ih (seen ++ [g]) longer
      refine ⟨nodup, fun f => (members f).trans ?_⟩
      rw [List.mem_append, List.mem_singleton, List.mem_cons, or_assoc]

theorem distinctOnce (fs : List Folder) : (distinct fs).Nodup :=
  (distinctFrom fs [] List.nodup_nil).1

theorem distinctMembers (fs : List Folder) (f : Folder) : f ∈ distinct fs ↔ f ∈ fs := by
  rw [distinct, (distinctFrom fs [] List.nodup_nil).2 f]
  simp only [List.not_mem_nil, false_or]

theorem createInverse {folders : List Folder} {settings : Settings} {source : Source}
    (made : create source folders settings = .ok m) :
    settings.flaw? = none ∧ m.settings = settings ∧ m.folders = distinct folders ∧
      m.registry = [] ∧ m.source = source := by
  unfold create Settings.validate at made
  cases flaw : settings.flaw? with
  | some w =>
    simp only [flaw] at made
    cases made
  | none =>
    simp only [flaw] at made
    cases filter : Exclude.Filter.ofLines (distinct folders) settings.exclude with
    | error w =>
      simp only [filter] at made
      cases made
    | ok filter' =>
      simp only [filter] at made
      cases made
      exact ⟨rfl, rfl, rfl, rfl, rfl⟩

namespace Sound

theorem created {folders : List Folder} {settings : Settings}
    (made : create .fresh folders settings = .ok m) : m.Sound := by
  obtain ⟨usable, settingsSame, foldersSame, empty, fresh⟩ := createInverse made
  constructor
  case usable =>
    rw [settingsSame]
    unfold Settings.flaw? at usable
    split at usable
    · cases usable
    · split at usable
      · cases usable
      · split at usable
        · cases usable
        · split at usable
          · cases usable
          · omega
  case once => exact foldersSame ▸ distinctOnce folders
  case single => exact empty ▸ List.nodup_nil
  case watched => intro f inside; rw [empty] at inside; cases inside
  case own => intro f s inside; rw [empty] at inside; cases inside
  case armed => intro f s inside; rw [empty] at inside; cases inside
  case live => rw [fresh, empty]; rfl
  case distinct => rw [fresh]; exact List.nodup_nil
  case numbered => rw [fresh]; exact Source.freshNumbered
  case proper => rw [fresh]; rfl

theorem edited (sound : m.Sound) (e : Source.Edit) : (m.edit e).Sound := by
  obtain ⟨-, live, -, -, breaches⟩ := m.source.editSame e
  exact { sound with
    armed := fun f s inside => (sound.armed f s inside).edited e
    live := live.trans sound.live
    distinct := live ▸ sound.distinct
    numbered := sound.numbered.edited e
    proper := breaches.trans sound.proper }

theorem stopRequested (sound : m.Sound) : m.requestStop.Sound := { sound with }

theorem ticked (sound : m.Sound) {isFolder : String → Bool}
    (returned : (m.tick isFolder).2.returns = true) : (m.tick isFolder).1.Sound :=
  (tickSwept isFolder sound).sound returned

theorem clearSource (sound : m.Sound) :
    m.clear.1.source =
      { m.source with live := [], cancels := m.source.cancels + m.registry.length } := by
  have waiting : ∀ s ∈ m.registry.values, s.outstanding = true ∧ s.request.inFlight = true := by
    intro s inside
    obtain ⟨⟨f, t⟩, member, rfl⟩ := List.mem_map.mp inside
    have armed := sound.armed f t member
    exact ⟨armed.waiting, armed.inFlight⟩
  have cleared := Registry.clearAll m.source m.registry.values [] sound.live sound.distinct waiting
  rw [Table.values, List.length_map] at cleared
  exact cleared

theorem cleared (sound : m.Sound) : m.clear.1.Sound := by
  have source := sound.clearSource
  constructor
  case usable => exact sound.usable
  case once => exact sound.once
  case single => exact List.nodup_nil
  case watched => intro f inside; cases inside
  case own => intro f s inside; cases inside
  case armed => intro f s inside; cases inside
  case live => rw [source]; rfl
  case distinct => rw [source]; exact List.nodup_nil
  case numbered => rw [source]; exact ⟨fun h inside => (nomatch inside), sound.numbered.positive⟩
  case proper => rw [source]; exact sound.proper

theorem looped {isFolder : String → Bool} {asks : Stopper} {fuel ticks received : Nat}
    (sound : m.Sound) (returned : (m.loop isFolder asks fuel ticks received).2.ending.returns = true) :
    (m.loop isFolder asks fuel ticks received).1.Sound := by
  induction fuel generalizing m ticks received with
  | zero =>
    cases asked : m.stopRequests with
    | succ n =>
      simp only [loop, asked]
      exact cleared (m := { m with stopRequests := n }) { sound with }
    | zero =>
      simp only [loop, asked]
      exact sound
  | succ fuel ih =>
    cases asked : m.stopRequests with
    | succ n =>
      simp only [loop, asked]
      exact cleared (m := { m with stopRequests := n }) { sound with }
    | zero =>
      have after : (m.tick isFolder).2.returns = true → (m.tick isFolder).1.Sound := sound.ticked
      simp only [loop, asked] at returned ⊢
      generalize m.tick isFolder = done at after returned ⊢
      obtain ⟨n, t⟩ := done
      have next (back : t.returns = true) :
          (if asks (ticks + 1) received t.batches.length then n.requestStop else n).Sound := by
        split
        · exact (after back).stopRequested
        · exact after back
      cases cut : t.cut with
      | none =>
        simp only [cut] at returned ⊢
        exact ih (next (by rw [Tick.returns, cut]; rfl)) returned
      | some cut' =>
        cases cut' with
        | fault fault => exact next (by rw [Tick.returns, cut]; rfl)
        | panic panic =>
          simp only [cut] at returned
          cases returned

theorem ran {isFolder : String → Bool} {asks : Stopper} {fuel : Nat} (sound : m.Sound)
    (returned : (m.run isFolder asks fuel).2.ending.returns = true) :
    (m.run isFolder asks fuel).1.Sound :=
  sound.looped returned

end Sound

/-- The states of a monitor that alone uses a fresh source. A tick or a run that does not come back
leaves none. -/
inductive Reachable : Monitor → Prop
  | created {folders : List Folder} {settings : Settings} {m : Monitor}
      (made : create .fresh folders settings = .ok m) : Reachable m
  | edited {m : Monitor} (reached : Reachable m) (e : Source.Edit) : Reachable (m.edit e)
  | ticked {m : Monitor} (reached : Reachable m) {isFolder : String → Bool}
      (returned : (m.tick isFolder).2.returns = true) : Reachable (m.tick isFolder).1
  | stopRequested {m : Monitor} (reached : Reachable m) : Reachable m.requestStop
  | ran {m : Monitor} (reached : Reachable m) {isFolder : String → Bool} {asks : Stopper}
      {fuel : Nat} (returned : (m.run isFolder asks fuel).2.ending.returns = true) :
      Reachable (m.run isFolder asks fuel).1

theorem Reachable.sound (reached : Reachable m) : m.Sound := by
  induction reached with
  | created made => exact .created made
  | edited _ e ih => exact ih.edited e
  | ticked _ returned ih => exact ih.ticked returned
  | stopRequested _ ih => exact ih.stopRequested
  | ran _ returned ih => exact ih.ran returned

inductive Act
  | edit (e : Source.Edit)
  | tick
  deriving DecidableEq, Repr

def history (isFolder : String → Bool) (m : Monitor) : List Act → Monitor × List Tick
  | [] => (m, [])
  | .edit e :: acts => (m.edit e).history isFolder acts
  | .tick :: acts =>
      let (n, t) := m.tick isFolder
      let (last, ts) := n.history isFolder acts
      (last, t :: ts)

variable {isFolder : String → Bool} {acts : List Act}

theorem Sound.lived (sound : m.Sound)
    (returned : ∀ t ∈ (m.history isFolder acts).2, t.returns = true) :
    (m.history isFolder acts).1.Sound ∧ (m.history isFolder acts).1.folders = m.folders := by
  induction acts generalizing m with
  | nil => exact ⟨sound, rfl⟩
  | cons act acts ih =>
    cases act with
    | edit e => exact ih (sound.edited e) returned
    | tick =>
      obtain ⟨first, later⟩ := List.forall_mem_cons.mp returned
      have swept := tickSwept isFolder sound
      obtain ⟨after, folders⟩ := ih (swept.sound first) later
      exact ⟨after, folders.trans swept.frame.folders⟩

theorem Reachable.lived (reached : Reachable m)
    (returned : ∀ t ∈ (m.history isFolder acts).2, t.returns = true) :
    Reachable (m.history isFolder acts).1 := by
  induction acts generalizing m with
  | nil => exact reached
  | cons act acts ih =>
    cases act with
    | edit e => exact ih (reached.edited e) returned
    | tick =>
      obtain ⟨first, later⟩ := List.forall_mem_cons.mp returned
      exact ih (reached.ticked first) later

end Monitor
end FolderWatch
