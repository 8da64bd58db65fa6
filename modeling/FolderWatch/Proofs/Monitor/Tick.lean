import FolderWatch.Proofs.Monitor.Visit

/-! A whole tick of a sound monitor, folder by folder: the folders visited to the end stand in
front, then the one where the tick was cut short, then those that it never reached. A tick that
returns leaves a sound monitor behind. -/
namespace FolderWatch.Monitor

/-- Where a pass over folders stopped: behind all of them, or at one whose visit failed, before
the rest was touched. -/
inductive Halt (isFolder : String → Bool) (m n : Monitor) :
    List Folder → List Visit → Option Cut → Prop
  | behind (visits : List Visit) : Halt isFolder m n (visits.map Visit.folder) visits none
  | struck (visits : List Visit) (f : Folder) (rest : List Folder) (cut : Cut)
      (failed : ((m.lane f).visit (m.surroundings isFolder f) f).result = .error cut)
      (left : n.lane f = ((m.lane f).visit (m.surroundings isFolder f) f).lane)
      (missed : ∀ g ∈ rest, n.lane g = m.lane g) :
      Halt isFolder m n (visits.map Visit.folder ++ f :: rest) visits (some cut)

structure Swept (isFolder : String → Bool) (m : Monitor) (fs : List Folder)
    (done : Monitor × Tick) : Prop where
  sound : done.2.returns = true → done.1.Sound
  frame : Frame m done.1
  outside : ∀ g, g ∉ fs → done.1.lane g = m.lane g
  visited : ∀ v ∈ done.2.visits,
    ((m.lane v.folder).visit (m.surroundings isFolder v.folder) v.folder).result = .ok v ∧
      done.1.lane v.folder =
        ((m.lane v.folder).visit (m.surroundings isFolder v.folder) v.folder).lane
  halt : Halt isFolder m done.1 fs done.2.visits done.2.cut

variable {isFolder : String → Bool} {m n o : Monitor} {f : Folder} {fs : List Folder}

theorem Halt.within {visits : List Visit} {cut : Option Cut}
    (halt : Halt isFolder m n fs visits cut) {v : Visit} (inside : v ∈ visits) :
    v.folder ∈ fs := by
  cases halt with
  | behind => exact List.mem_map_of_mem inside
  | struck => exact List.mem_append_left _ (List.mem_map_of_mem inside)

theorem Halt.whole {visits : List Visit} (halt : Halt isFolder m n fs visits none) :
    visits.map Visit.folder = fs := by
  cases halt
  rfl

theorem Swept.comesTo {done : Monitor × Tick} (swept : Swept isFolder m fs done)
    (healthy : done.2.cut = none) (inside : f ∈ fs) :
    ∃ v ∈ done.2.visits, v.folder = f ∧
      ((m.lane f).visit (m.surroundings isFolder f) f).result = .ok v ∧
      done.1.lane f = ((m.lane f).visit (m.surroundings isFolder f) f).lane := by
  obtain ⟨v, member, rfl⟩ := List.mem_map.mp ((healthy ▸ swept.halt).whole ▸ inside)
  obtain ⟨ended, left⟩ := swept.visited v member
  exact ⟨v, member, rfl, ended, left⟩

theorem Halt.once {visits : List Visit} {cut : Option Cut}
    (halt : Halt isFolder m n fs visits cut) (once : fs.Nodup) :
    (visits.map Visit.folder).Nodup := by
  cases halt with
  | behind => exact once
  | struck => exact (List.nodup_append.mp once).1

theorem Halt.reaches {visits : List Visit} {cut : Option Cut}
    (halt : Halt isFolder m n fs visits cut) (once : fs.Nodup) (inside : f ∈ fs) :
    f ∈ visits.map Visit.folder ∨ n.lane f = m.lane f ∨
      ∃ e, cut = some e ∧ f ∉ visits.map Visit.folder ∧
        ((m.lane f).visit (m.surroundings isFolder f) f).result = .error e ∧
        n.lane f = ((m.lane f).visit (m.surroundings isFolder f) f).lane := by
  cases halt with
  | behind => exact .inl inside
  | struck visits g rest e failed left missed =>
    rcases List.mem_append.mp inside with early | late
    · exact .inl early
    · rcases List.mem_cons.mp late with same | later
      · subst same
        have fresh : f ∉ visits.map Visit.folder := fun early =>
          (List.nodup_append.mp once).2.2 f early f List.mem_cons_self rfl
        exact .inr (.inr ⟨e, rfl, fresh, failed, left⟩)
      · exact .inr (.inl (missed f later))

theorem Halt.from {visits : List Visit} {cut : Option Cut}
    (halt : Halt isFolder n o fs visits cut) (frame : Frame m n)
    (ahead : ∀ g ∈ fs, n.lane g = m.lane g) (v : Visit) :
    Halt isFolder m o (v.folder :: fs) (v :: visits) cut := by
  cases halt with
  | behind => exact .behind (v :: visits)
  | struck visits f rest cut failed left missed =>
    have here : n.lane f = m.lane f :=
      ahead f (List.mem_append_right _ List.mem_cons_self)
    have behind : ∀ g ∈ rest, n.lane g = m.lane g := fun g inside =>
      ahead g (List.mem_append_right _ (List.mem_cons_of_mem _ inside))
    rw [frame.surroundings isFolder, here] at failed left
    exact .struck (v :: visits) f rest cut failed left fun g inside =>
      (missed g inside).trans (behind g inside)

theorem visitNames {c : Surroundings} {l : Lane} {v : Visit} (ended : (l.visit c f).result = .ok v) :
    v.folder = f := by
  have attended : ∀ opened x, (Lane.attend c f opened x).result = .ok v → v.folder = f := by
    intro opened x ended
    have way := Lane.attended c f opened x
    generalize Lane.attend c f opened x = done at way ended
    cases way <;> cases ended <;> rfl
  have way := Lane.visited c f l
  generalize l.visit c f = done at way ended
  cases way with
  | held _ => exact attended _ _ ended
  | started _ _ => exact attended _ _ ended
  | refused _ _ _ =>
    cases ended
    rfl
  | struck _ _ _ => cases ended

theorem sweep (isFolder : String → Bool) (fs : List Folder) (m : Monitor) (sound : m.Sound)
    (inside : ∀ f ∈ fs, f ∈ m.folders) (once : fs.Nodup) :
    Swept isFolder m fs (m.visitAll isFolder fs) := by
  induction fs generalizing m with
  | nil =>
    exact ⟨fun _ => sound, Frame.refl m, fun _ _ => rfl, fun _ none => (nomatch none), .behind []⟩
  | cons f fs ih =>
    obtain ⟨fresh, once⟩ := List.nodup_cons.mp once
    have turn := visitProper isFolder sound (inside f List.mem_cons_self)
    simp only [visitAll]
    generalize m.visit isFolder f = done at turn
    obtain ⟨n, result, log⟩ := done
    obtain ⟨soundN, frame, lane, ended, others⟩ := turn
    dsimp only at *
    -- No folder comes twice, so the lanes still ahead are those the pass began with.
    have ahead : ∀ g ∈ fs, n.lane g = m.lane g := by
      intro g later
      exact others g (fun same => fresh (same ▸ later))
    cases result with
    | error cut =>
      constructor
      case sound => exact fun returns => soundN fun _ same => Except.error.inj same ▸ returns
      case frame => exact frame
      case outside => exact fun g out => others g (List.ne_of_not_mem_cons out)
      case visited => exact fun _ none => nomatch none
      case halt => exact .struck [] f fs cut ended.symm lane ahead
    | ok v =>
      have named : v.folder = f := visitNames ended.symm
      have swept := ih n (soundN (okReturns v))
        (fun g later => frame.folders ▸ inside g (List.mem_cons_of_mem _ later)) once
      constructor
      case sound => exact swept.sound
      case frame => exact frame.trans swept.frame
      case outside =>
        intro g out
        obtain ⟨other, later⟩ := not_or.mp (mt List.mem_cons.mpr out)
        exact (swept.outside g later).trans (others g other)
      case visited =>
        intro w member
        rcases List.mem_cons.mp member with same | later
        · rw [same, named]
          exact ⟨ended.symm, (swept.outside f fresh).trans lane⟩
        · have visited := swept.visited w later
          rw [frame.surroundings isFolder, ahead _ (swept.halt.within later)] at visited
          exact visited
      case halt => exact named ▸ swept.halt.from frame ahead v

theorem tickSwept (isFolder : String → Bool) (sound : m.Sound) :
    Swept isFolder m m.folders (m.tick isFolder) :=
  sweep isFolder m.folders m sound (fun _ inside => inside) sound.once

end FolderWatch.Monitor
