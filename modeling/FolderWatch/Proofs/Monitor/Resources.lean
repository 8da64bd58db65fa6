import FolderWatch.Proofs.Monitor.History

/-! What a monitor holds. After any life of ticks that come back, with a fault or without, its
sessions wait for their reads and nothing but their handles is open; dropping it closes them all and
calls every read back. -/
namespace FolderWatch.Monitor

structure Balanced (m : Monitor) : Prop where
  once : m.folders.Nodup
  single : m.registry.keys.Nodup
  watched : ∀ f ∈ m.registry.keys, f ∈ m.folders
  own : ∀ f s, (f, s) ∈ m.registry → s.folder = f
  waiting : ∀ f s, (f, s) ∈ m.registry → s.outstanding = true ∧ s.request.inFlight = true
  outstanding : m.registry.outstanding = m.registry.length
  live : m.source.live.length = 2 * m.registry.length
  proper : m.source.breaches = []

variable {m : Monitor}

theorem Sound.outstanding (sound : m.Sound) : m.registry.outstanding = m.registry.length := by
  have all : m.registry.values.filter (·.outstanding) = m.registry.values := by
    apply List.filter_eq_self.mpr
    intro s inside
    obtain ⟨⟨f, t⟩, member, rfl⟩ := List.mem_map.mp inside
    exact (sound.armed f t member).waiting
  rw [Registry.outstanding, all, Table.values, List.length_map]

theorem Sound.liveLength (sound : m.Sound) : m.source.live.length = 2 * m.registry.length := by
  have pairs : ∀ sessions : List Session,
      (sessions.flatMap Session.handles).length = 2 * sessions.length := by
    intro sessions
    induction sessions with
    | nil => rfl
    | cons s sessions ih =>
      rw [List.flatMap_cons, List.length_append, ih, List.length_cons]
      simp only [Session.handles, List.length_cons, List.length_nil]
      omega
  rw [sound.live, pairs, Table.values, List.length_map]

theorem Sound.balanced (sound : m.Sound) : m.Balanced where
  once := sound.once
  single := sound.single
  watched := sound.watched
  own := sound.own
  waiting := fun f s inside =>
    ⟨(sound.armed f s inside).waiting, (sound.armed f s inside).inFlight⟩
  outstanding := sound.outstanding
  live := sound.liveLength
  proper := sound.proper

theorem reachableBalanced (reached : Reachable m) :
    m.Balanced ∧
    (∀ isFolder, ((m.tick isFolder).2.returns = true → (m.tick isFolder).1.Balanced) ∧
      (m.tick isFolder).1.source.cancels = m.source.cancels) ∧
    m.clear.1.source.live = [] ∧
    m.clear.1.source.cancels = m.source.cancels + m.registry.length := by
  have sound := reached.sound
  refine ⟨sound.balanced, fun isFolder => ⟨?_, ?_⟩, ?_, ?_⟩
  · exact fun returned => (sound.ticked returned).balanced
  · exact (tickSwept isFolder sound).frame.cancels
  · rw [sound.clearSource]
  · rw [sound.clearSource]

theorem balancedAfterFault :
    let d := Folder.ofText "d"
    let e := Folder.ofText "e"
    let made : Monitor := ⟨.default, [d, e], .empty, [], .fresh, 0⟩
    let opened := (made.edit (.failOpens e 1)).tick (fun _ => false)
    let failed := (opened.1.edit (.failCompletions true)).tick (fun _ => false)
    create .fresh [d, e, d] .default = .ok made ∧ failed.2.cut.isSome ∧
      failed.1.source.live.length = 2 * failed.1.registry.length ∧
      failed.1.registry.length = 1 ∧ failed.1.clear.1.source.cancels = 1 := by
  intro d e made opened failed
  have created : create .fresh [d, e, d] .default = .ok made := rfl
  have reached : Reachable failed.1 :=
    (((Reachable.created created).edited _).ticked (by decide)).edited _ |>.ticked (by decide)
  obtain ⟨balanced, -, -, cancels⟩ := reachableBalanced reached
  refine ⟨created, by decide, balanced.live, by decide, ?_⟩
  rw [cancels]
  decide

end FolderWatch.Monitor
