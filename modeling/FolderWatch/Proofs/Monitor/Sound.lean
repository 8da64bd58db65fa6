import FolderWatch.Proofs.Session
import FolderWatch.Proofs.Table

/-! The invariant of a monitor that alone uses its source: every session waits for a read of the
folder it stands under, and the handles of the sessions are all the open ones. -/
namespace FolderWatch.Monitor

structure Sound (m : Monitor) : Prop where
  usable : m.settings.bufferBytes ≤ Flaw.maxBufferBytes
  once : m.folders.Nodup
  single : m.registry.keys.Nodup
  watched : ∀ f ∈ m.registry.keys, f ∈ m.folders
  own : ∀ f s, (f, s) ∈ m.registry → s.folder = f
  armed : ∀ f s, (f, s) ∈ m.registry → s.Armed m.source m.settings.bufferBytes
  live : m.source.live = m.registry.values.flatMap Session.handles
  distinct : m.source.live.Nodup
  numbered : m.source.Numbered
  proper : m.source.breaches = []

structure Frame (m n : Monitor) : Prop where
  settings : n.settings = m.settings
  folders : n.folders = m.folders
  filter : n.filter = m.filter
  stopRequests : n.stopRequests = m.stopRequests
  failCompletions : n.source.failCompletions = m.source.failCompletions
  failResets : n.source.failResets = m.source.failResets
  cancels : n.source.cancels = m.source.cancels
  breaches : n.source.breaches = m.source.breaches

variable {m n o : Monitor} {f : Folder} {s : Session} {size : Nat}

theorem Frame.refl (m : Monitor) : Frame m m := ⟨rfl, rfl, rfl, rfl, rfl, rfl, rfl, rfl⟩

theorem Frame.trans (first : Frame m n) (second : Frame n o) : Frame m o where
  settings := second.settings.trans first.settings
  folders := second.folders.trans first.folders
  filter := second.filter.trans first.filter
  stopRequests := second.stopRequests.trans first.stopRequests
  failCompletions := second.failCompletions.trans first.failCompletions
  failResets := second.failResets.trans first.failResets
  cancels := second.cancels.trans first.cancels
  breaches := second.breaches.trans first.breaches

theorem Frame.surroundings (frame : Frame m n) (isFolder : String → Bool) :
    n.surroundings isFolder = m.surroundings isFolder := by
  funext f
  simp only [Monitor.surroundings, frame.settings, frame.filter, frame.failCompletions,
    frame.failResets]

theorem frameKept {r : Registry} {source : Source} (kept : m.source.Kept f source) :
    Frame m { m with registry := r, source := source } :=
  ⟨rfl, rfl, rfl, rfl, kept.failCompletions, kept.failResets, kept.cancels, kept.breaches⟩

namespace Sound

theorem small (sound : m.Sound) : m.settings.bufferBytes < Buffer.limit - 3 :=
  Nat.lt_of_le_of_lt sound.usable (by decide)

theorem given (sound : m.Sound) (inside : (f, s) ∈ m.registry) :
    s.dir < m.source.next := by
  apply sound.numbered.given
  rw [sound.live]
  apply List.mem_flatMap.mpr
  exact ⟨s, List.mem_map.mpr ⟨(f, s), inside, rfl⟩, List.mem_cons_self⟩

theorem refused {source : Source} (sound : m.Sound) (kept : m.source.Kept f source)
    (numbered : source.Numbered) (live : source.live = m.source.live) :
    { m with source := source }.Sound :=
  { sound with
    armed := fun g s inside => (sound.armed g s inside).kept kept (sound.given inside)
    live := live.trans sound.live
    distinct := live ▸ sound.distinct
    numbered := numbered
    proper := kept.breaches.trans sound.proper }

theorem added {source : Source} (sound : m.Sound) (inside : f ∈ m.folders)
    (missing : Table.get? m.registry f = none) (kept : m.source.Kept f source)
    (numbered : source.Numbered) (own : s.folder = f)
    (armed : s.Armed source m.settings.bufferBytes) (dir : m.source.next ≤ s.dir)
    (order : s.dir < s.completion) (live : source.live = m.source.live ++ s.handles) :
    { m with registry := m.registry.insert s, source := source }.Sound := by
  have appended : m.registry.insert s = m.registry ++ [(f, s)] := by
    rw [Registry.insert, own]
    exact Table.setAbsent missing s
  have outside : f ∉ m.registry.keys := Table.absent.mp missing
  rw [appended]
  constructor
  case usable => exact sound.usable
  case once => exact sound.once
  case single =>
    simp only [Table.keys, List.map_append, List.map_cons, List.map_nil]
    exact List.nodup_append.mpr ⟨sound.single, by simp, by
      intro g old h new same
      rw [List.mem_singleton.mp new] at same
      exact outside (same ▸ old)⟩
  case watched =>
    intro g member
    simp only [Table.keys, List.map_append, List.map_cons, List.map_nil, List.mem_append,
      List.mem_singleton] at member
    rcases member with old | new
    · exact sound.watched g old
    · exact new ▸ inside
  case own =>
    intro g x member
    rcases List.mem_append.mp member with old | new
    · exact sound.own g x old
    · cases List.mem_singleton.mp new
      exact own
  case armed =>
    intro g x member
    rcases List.mem_append.mp member with old | new
    · exact (sound.armed g x old).kept kept (sound.given old)
    · cases List.mem_singleton.mp new
      exact armed
  case live =>
    simp only [Table.values, List.map_append, List.map_cons, List.map_nil, List.flatMap_append,
      List.flatMap_singleton]
    rw [live, sound.live, Table.values]
  case distinct =>
    rw [live]
    apply List.nodup_append.mpr
    refine ⟨sound.distinct, ?_, ?_⟩
    · simp only [Session.handles, List.nodup_cons, List.mem_singleton, List.not_mem_nil,
        not_false_eq_true, List.nodup_nil, and_true]
      omega
    · intro h old k new same
      have less := sound.numbered.given h old
      simp only [Session.handles, List.mem_cons, List.not_mem_nil, or_false] at new
      omega
  case numbered => exact numbered
  case proper => exact kept.breaches.trans sound.proper

theorem replaced {source : Source} {ready : Session} (sound : m.Sound)
    (here : Table.get? m.registry f = some s) (steady : m.source.Steady f source)
    (own : ready.folder = f) (handles : ready.handles = s.handles)
    (armed : ready.Armed source m.settings.bufferBytes) :
    { m with registry := m.registry.insert ready, source := source }.Sound := by
  obtain ⟨before, after, whole, -, updated⟩ := Table.splitAt sound.single here
  have inserted : m.registry.insert ready = before ++ (f, ready) :: after := by
    rw [Registry.insert, own]
    exact updated ready
  have keys : Table.keys (before ++ (f, ready) :: after) = m.registry.keys := by
    simp only [whole, Table.keys, List.map_append, List.map_cons]
  have old : ∀ g x, (g, x) ∈ before ++ (f, ready) :: after →
      (g, x) = (f, ready) ∨ (g, x) ∈ m.registry := by
    intro g x member
    simp only [whole, List.mem_append, List.mem_cons] at member ⊢
    rcases member with inside | same | inside
    · exact .inr (.inl inside)
    · exact .inl same
    · exact .inr (.inr (.inr inside))
  rw [inserted]
  constructor
  case usable => exact sound.usable
  case once => exact sound.once
  case single => exact keys ▸ sound.single
  case watched =>
    intro g member
    exact sound.watched g (keys ▸ member)
  case own =>
    intro g x member
    rcases old g x member with same | inside
    · cases same
      exact own
    · exact sound.own g x inside
  case armed =>
    intro g x member
    rcases old g x member with same | inside
    · cases same
      exact armed
    · exact (sound.armed g x inside).kept steady.kept (sound.given inside)
  case live =>
    rw [steady.live, sound.live]
    simp only [whole, Table.values, List.map_append, List.map_cons, List.flatMap_append,
      List.flatMap_cons, handles]
  case distinct => exact steady.live ▸ sound.distinct
  case numbered =>
    exact ⟨fun h inside => steady.next ▸ sound.numbered.given h (steady.live ▸ inside),
      steady.next ▸ sound.numbered.positive⟩
  case proper => exact steady.kept.breaches.trans sound.proper

theorem dropped {source : Source} (sound : m.Sound) (here : Table.get? m.registry f = some s)
    (steady : m.source.Steady f source) :
    { m with
      registry := Table.erase m.registry f
      source := (source.close s.dir).close s.completion }.Sound := by
  obtain ⟨before, after, whole, erased, -⟩ := Table.splitAt sound.single here
  have fewer : (before ++ after).Sublist m.registry := by
    rw [whole]
    exact List.Sublist.append_left (List.sublist_cons_self _ _) _
  have live : ((source.close s.dir).close s.completion).live =
      (Table.values (before ++ after)).flatMap Session.handles := by
    have once := sound.distinct
    rw [sound.live] at once
    simp only [whole, Table.values, List.map_append, List.map_cons, List.flatMap_append,
      List.flatMap_cons, Session.handles, ← List.append_assoc] at once
    have closed := Source.closePair (Source.onceApart once)
    simp only [Source.close, steady.live, sound.live]
    simpa only [whole, Table.values, List.map_append, List.map_cons, List.flatMap_append,
      List.flatMap_cons, Session.handles, List.append_assoc] using closed
  rw [erased]
  constructor
  case usable => exact sound.usable
  case once => exact sound.once
  case single => exact sound.single.sublist (fewer.map _)
  case watched =>
    intro g member
    exact sound.watched g ((fewer.map _).subset member)
  case own =>
    intro g x member
    exact sound.own g x (fewer.subset member)
  case armed =>
    intro g x member
    have inside := fewer.subset member
    have armed := (sound.armed g x inside).kept steady.kept (sound.given inside)
    exact ⟨armed.known, armed.waiting, armed.inFlight, armed.bound, armed.sized⟩
  case live => exact live
  case distinct =>
    simp only [Source.close, steady.live]
    exact (sound.distinct.filter _).filter _
  case numbered =>
    refine ⟨fun h inside => ?_, steady.next ▸ sound.numbered.positive⟩
    have old := (List.mem_filter.mp (List.mem_filter.mp inside).1).1
    exact steady.next ▸ sound.numbered.given h (steady.live ▸ old)
  case proper => exact steady.kept.breaches.trans sound.proper

end Sound
end FolderWatch.Monitor
