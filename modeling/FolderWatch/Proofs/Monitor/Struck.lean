import FolderWatch.Proofs.Monitor.Healing

/-! A fatal fault in the middle of a tick. The folders in front of the one that it struck are done,
those behind it are as they were, and the one itself is left without a session and without an open
handle, to be opened anew by the next tick that comes to it. -/
namespace FolderWatch

namespace Script

variable {f : Folder} {x : Script} {e : Fault}

theorem pollFails {size : Nat} {failResets : Bool}
    (failed : (x.poll size failResets f).2 = .error e) :
    failResets = true ∧ e = .noReset f.text Source.invalidHandle := by
  have answers := x.pollAnswers size failResets f
  rw [failed] at answers
  cases answers with
  | noReset fails => exact ⟨fails, rfl⟩

theorem startFails {failCompletions : Bool} (failed : (x.start failCompletions f).2 = some e)
    (fatal : e.isFatal = true) :
    failCompletions = true ∧ e = .noCompletion f.text Source.outOfMemory := by
  unfold start issue at failed
  split at failed
  · cases failed
    cases fatal
  · split at failed
    · next fails =>
      cases failed
      exact ⟨fails, rfl⟩
    · split at failed <;> cases failed
      cases fatal

end Script

/-- A fault that ends a tick: no completion for a folder, or none to be reset. -/
def Surroundings.Ends (c : Surroundings) (f : Folder) (e : Fault) : Prop :=
  c.failCompletions = true ∧ e = .noCompletion f.text Source.outOfMemory ∨
    c.failResets = true ∧ e = .noReset f.text Source.invalidHandle

theorem Surroundings.Ends.fatal {c : Surroundings} {f : Folder} {e : Fault} (ends : c.Ends f e) :
    e.isFatal = true := by
  rcases ends with ⟨-, rfl⟩ | ⟨-, rfl⟩ <;> rfl

namespace Lane

variable {c : Surroundings} {f : Folder} {e : Fault}

theorem attendFails {opened : Bool} {x : Script}
    (failed : (attend c f opened x).result = .error (.fault e)) :
    c.Ends f e ∧ (attend c f opened x).lane.watched = false := by
  have way := attended c f opened x
  generalize attend c f opened x = done at way failed ⊢
  cases way with
  | failed answer =>
    cases failed
    exact ⟨.inr (Script.pollFails (congrArg Prod.snd answer)), rfl⟩
  | waits _ | ended _ _ _ | unwound _ _ _ => cases failed

theorem visitFails {l : Lane} (failed : (l.visit c f).result = .error (.fault e)) :
    c.Ends f e ∧ (l.visit c f).lane.watched = false := by
  have way := visited c f l
  generalize l.visit c f = done at way failed ⊢
  cases way with
  | held _ | started _ _ => exact attendFails failed
  | refused _ _ _ => cases failed
  | struck _ answer fatal =>
    cases failed
    exact ⟨.inl (Script.startFails (congrArg Prod.snd answer) fatal), rfl⟩

end Lane

namespace Session

theorem issueFolder (s : Session) (source : Source) : (s.issue source).value.1.folder = s.folder := by
  unfold issue
  split <;> rfl

theorem rearmFolder (s : Session) (source : Source) (reading : Reading) (log : List Message) :
    (s.rearm source reading log).value.1.folder = s.folder := by
  unfold rearm
  split
  · rfl
  · next after answer =>
    have same := s.issueFolder after
    dsimp only
    split <;> (next issued => rw [issued] at same; exact same)

theorem pollFolder (s : Session) (source : Source) : (s.poll source).value.1.folder = s.folder := by
  unfold poll
  dsimp only
  split
  · rfl
  · rfl
  · exact rearmFolder _ _ _ _
  · exact rearmFolder _ _ _ _
  · exact rearmFolder _ _ _ _

end Session

namespace Monitor

variable {isFolder : String → Bool} {m n : Monitor} {f g : Folder} {fs : List Folder} {e : Fault}

/-- The list of folders says where a pass goes, and no visit looks at it. -/
theorem attendAmong (isFolder : String → Bool) (f : Folder) (m : Monitor) (fs : List Folder)
    (opened : Bool) (s : Session) :
    { m with folders := fs }.attend isFolder f opened s =
      ({ (m.attend isFolder f opened s).1 with folders := fs },
        (m.attend isFolder f opened s).2) := by
  unfold attend
  dsimp only
  split
  · rfl
  · split
    · rfl
    · split
      · rfl
      · split <;> rfl

theorem visitAmong (m : Monitor) (fs : List Folder) (f : Folder) :
    { m with folders := fs }.visit isFolder f =
      ({ (m.visit isFolder f).1 with folders := fs }, (m.visit isFolder f).2) := by
  unfold visit
  dsimp only
  split
  · exact attendAmong isFolder f m fs _ _
  · split
    · split <;> rfl
    · next s started =>
      let opened := { m with
        registry := m.registry.insert s
        source := (Session.start m.source f m.settings).source.noteIf
          (Table.get? m.registry s.folder).isSome .displaced }
      have same := attendAmong isFolder f opened fs true s
      simp only [opened] at same
      rw [same]

theorem passAmong (m : Monitor) (fs gs : List Folder) :
    { m with folders := fs }.visitAll isFolder gs =
      ({ (m.visitAll isFolder gs).1 with folders := fs }, (m.visitAll isFolder gs).2) := by
  induction gs generalizing m with
  | nil => rfl
  | cons g gs ih =>
    rw [visitAll, visitAll, visitAmong]
    generalize m.visit isFolder g = done
    obtain ⟨n, result, log⟩ := done
    cases result with
    | error fault => rfl
    | ok v =>
      dsimp only
      rw [ih n]

theorem passStops (failed : (m.visitAll isFolder fs).2.cut = some (.fault e)) :
    ∃ early f late log, fs = early ++ f :: late ∧ (m.visitAll isFolder early).2.cut = none ∧
      (m.visitAll isFolder early).1.visit isFolder f =
        ((m.visitAll isFolder fs).1, .error (.fault e), log) ∧
      (m.visitAll isFolder fs).2.visits = (m.visitAll isFolder early).2.visits ∧
      (m.visitAll isFolder fs).2.log = (m.visitAll isFolder early).2.log ++ log := by
  induction fs generalizing m with
  | nil => cases failed
  | cons f fs ih =>
    rw [visitAll] at failed ⊢
    cases visited : m.visit isFolder f with
    | mk n rest =>
      obtain ⟨result, log⟩ := rest
      rw [visited] at failed
      cases result with
      | error fault =>
        cases failed
        exact ⟨[], f, fs, log, rfl, rfl, visited, rfl, rfl⟩
      | ok v =>
        obtain ⟨early, g, late, last, rfl, healthy, struck, visits, told⟩ := ih failed
        refine ⟨f :: early, g, late, last, rfl, ?_⟩
        simp only [visitAll, visited]
        exact ⟨healthy, struck, congrArg _ visits, by rw [told, List.append_assoc]⟩

theorem attendEntries (isFolder : String → Bool) (m : Monitor) (opened : Bool) {s : Session}
    (own : s.folder = f) (other : g ≠ f) :
    Table.get? (m.attend isFolder f opened s).1.registry g = Table.get? m.registry g := by
  have named := (s.pollFolder m.source).trans own
  have kept : Table.get? (m.registry.insert (s.poll m.source).value.1) g = Table.get? m.registry g := by
    simp only [Registry.insert, named, Table.getSet, Ne.symm other, if_false]
  have dropped : Table.get? (Table.erase m.registry f) g = Table.get? m.registry g := by
    simp only [Table.getErase, Ne.symm other, if_false]
  unfold attend
  dsimp only
  split
  · exact dropped
  · split
    · exact kept
    · split
      · exact kept
      · split
        · exact dropped
        · exact kept

theorem visitEntries (isFolder : String → Bool) (sound : m.Sound) (other : g ≠ f) :
    Table.get? (m.visit isFolder f).1.registry g = Table.get? m.registry g := by
  have way := visitWent isFolder sound f
  generalize (m.lane f).visit (m.surroundings isFolder f) f = account at way
  generalize m.visit isFolder f = done at way ⊢
  cases way with
  | held here => exact attendEntries isFolder m false (sound.own f _ (Table.memOfGet here)) other
  | refused _ _ _ _ _ | struck _ _ _ _ _ => rfl
  | started _ _ _ begun looked =>
    obtain ⟨_, same, own, -⟩ := begun.opened rfl
    cases same
    rw [← looked]
    refine (attendEntries isFolder _ true own other).trans ?_
    simp only [Registry.insert, own, Table.getSet, Ne.symm other, if_false]

theorem passEntries (sound : m.Sound) (inside : ∀ f ∈ fs, f ∈ m.folders) (outside : g ∉ fs) :
    Table.get? (m.visitAll isFolder fs).1.registry g = Table.get? m.registry g := by
  induction fs generalizing m with
  | nil => rfl
  | cons f fs ih =>
    obtain ⟨other, later⟩ := not_or.mp (mt List.mem_cons.mpr outside)
    have turn := visitProper isFolder sound (inside f List.mem_cons_self)
    have same := visitEntries isFolder sound other
    simp only [visitAll]
    generalize m.visit isFolder f = done at turn same
    obtain ⟨n, result, log⟩ := done
    cases result with
    | error fault => exact same
    | ok v =>
      have rest := ih (turn.sound (okReturns v))
        (fun g later => turn.frame.folders ▸ inside g (List.mem_cons_of_mem _ later)) later
      exact rest.trans same

theorem Sound.opens (sound : m.Sound) (h : Nat) :
    h ∈ m.source.live ↔ ∃ g s, Table.get? m.registry g = some s ∧ h ∈ s.handles := by
  rw [sound.live, List.mem_flatMap]
  constructor
  · rintro ⟨s, inside, held⟩
    obtain ⟨⟨g, t⟩, member, rfl⟩ := List.mem_map.mp inside
    exact ⟨g, t, Table.getOfMem sound.single member, held⟩
  · rintro ⟨g, s, found, held⟩
    exact ⟨s, List.mem_map_of_mem (f := Prod.snd) (Table.memOfGet found), held⟩

theorem Sound.apart {s t : Session} (sound : m.Sound) (here : Table.get? m.registry f = some s)
    (there : Table.get? m.registry g = some t) (other : g ≠ f) : ∀ h ∈ t.handles, h ∉ s.handles := by
  obtain ⟨before, after, whole, -, -⟩ := Table.splitAt sound.single here
  have once := sound.distinct
  rw [sound.live] at once
  simp only [whole, Table.values, List.map_append, List.map_cons, List.flatMap_append,
    List.flatMap_cons, Session.handles, ← List.append_assoc] at once
  have apart := Source.onceApart once
  have member : (g, t) ∈ before ++ after := by
    have inside := Table.memOfGet there
    rw [whole] at inside
    simpa [other] using inside
  intro h held own
  have among : h ∈ (Table.values (before ++ after)).flatMap Session.handles :=
    List.mem_flatMap.mpr ⟨t, List.mem_map_of_mem (f := Prod.snd) member, held⟩
  simp only [Table.values, List.map_append, List.flatMap_append] at among
  have different := apart h among
  simp only [Session.handles, List.mem_cons, List.not_mem_nil, or_false] at own
  exact own.elim different.1 different.2

theorem Sound.closes (before : m.Sound) (after : n.Sound) (gone : Table.get? n.registry f = none)
    (others : ∀ g, g ≠ f → Table.get? n.registry g = Table.get? m.registry g) (h : Nat) :
    h ∈ n.source.live ↔
      h ∈ m.source.live ∧ ∀ s, Table.get? m.registry f = some s → h ∉ s.handles := by
  rw [before.opens, after.opens]
  constructor
  · rintro ⟨g, t, found, held⟩
    have other : g ≠ f := by
      rintro rfl
      rw [gone] at found
      cases found
    have there := (others g other).symm.trans found
    exact ⟨⟨g, t, there, held⟩, fun s here => before.apart here there other h held⟩
  · rintro ⟨⟨g, t, there, held⟩, spared⟩
    have other : g ≠ f := by
      rintro rfl
      exact spared t there held
    exact ⟨g, t, (others g other).trans there, held⟩

theorem unwatchedIff : (m.lane f).watched = false ↔ Table.get? m.registry f = none := by
  rw [lane, Option.isSome_eq_false_iff, Option.isNone_iff_eq_none]

section Reaches

variable {early late : List Folder} {visits : List Visit} {cut : Option Cut}

theorem Halt.stands (halt : Halt isFolder m n (early ++ f :: late) visits cut) :
    early.length < visits.length ∧ f ∈ visits.map Visit.folder ∨
      early.length = visits.length ∧
        n.lane f = ((m.lane f).visit (m.surroundings isFolder f) f).lane ∨
      visits.length < early.length ∧ n.lane f = m.lane f := by
  generalize whole : early ++ f :: late = fs at halt
  cases halt with
  | behind =>
    have lengths := congrArg List.length whole
    simp only [List.length_append, List.length_cons, List.length_map] at lengths
    exact .inl ⟨by omega, whole ▸ List.mem_append_right _ List.mem_cons_self⟩
  | struck visits g rest cut failed left missed =>
    rcases List.append_eq_append_iff.mp whole with ⟨more, front, back⟩ | ⟨more, front, back⟩
    all_goals
      have lengths := congrArg List.length front
      simp only [List.length_append, List.length_map] at lengths
    · cases more with
      | nil =>
        cases back
        exact .inr (.inl ⟨lengths.symm, left⟩)
      | cons h more =>
        rw [List.cons_append, List.cons.injEq] at back
        rw [front, ← back.1]
        rw [List.length_cons] at lengths
        exact .inl ⟨by omega, List.mem_append_right _ List.mem_cons_self⟩
    · cases more with
      | nil =>
        cases back
        exact .inr (.inl ⟨lengths, left⟩)
      | cons h more =>
        rw [List.cons_append, List.cons.injEq] at back
        rw [List.length_cons] at lengths
        have behind : f ∈ rest := back.2 ▸ List.mem_append_right _ List.mem_cons_self
        exact .inr (.inr ⟨by omega, missed f behind⟩)

theorem staysUnreached (sound : m.Sound) (whole : m.folders = early ++ f :: late)
    {acts : List Act} (returned : ∀ t ∈ (m.history isFolder acts).2, t.returns = true)
    (short : ∀ t ∈ (m.history isFolder acts).2, t.visits.length < early.length) :
    ((m.history isFolder acts).1.lane f).watched = (m.lane f).watched := by
  induction acts generalizing m with
  | nil => rfl
  | cons act acts ih =>
    cases act with
    | edit e => exact ih (sound.edited e) whole returned short
    | tick =>
      have swept := tickSwept isFolder sound
      have halt := swept.halt
      rw [whole] at halt
      obtain ⟨back, laterBack⟩ := List.forall_mem_cons.mp returned
      have before : (m.tick isFolder).2.visits.length < early.length := short _ List.mem_cons_self
      have same : (m.tick isFolder).1.lane f = m.lane f := by
        rcases halt.stands with ⟨beyond, -⟩ | ⟨there, -⟩ | ⟨-, same⟩
        · omega
        · omega
        · exact same
      have later := ih (swept.sound back) (swept.frame.folders.trans whole) laterBack
        fun t member => short t (List.mem_cons_of_mem _ member)
      exact later.trans (congrArg Lane.watched same)

theorem reachedOpens (sound : m.Sound) (whole : m.folders = early ++ f :: late)
    (missing : Table.get? m.registry f = none)
    (far : early.length ≤ (m.tick isFolder).2.visits.length) :
    let after := (m.tick isFolder).1.source.script f
    ∃ refused, (m.source.script f).openFailures = refused + after.openFailures ∧
      after.opens + refused = (m.source.script f).opens + 1 := by
  have swept := tickSwept isFolder sound
  have left : (m.tick isFolder).1.lane f =
      ((m.lane f).visit (m.surroundings isFolder f) f).lane := by
    have halt := swept.halt
    rw [whole] at halt
    rcases halt.stands with ⟨-, visited⟩ | ⟨-, left⟩ | ⟨before, -⟩
    · obtain ⟨v, member, rfl⟩ := List.mem_map.mp visited
      exact (swept.visited v member).2
    · exact left
    · omega
  obtain ⟨refused, reads, lost, tried, -⟩ :=
    Lane.visitLoses (m.surroundings isFolder f) f (m.lane f)
  rw [← left] at lost tried
  rw [unwatchedIff.mpr missing] at tried
  exact ⟨refused, lost.opens, tried⟩

end Reaches

/-- A tick struck at a folder, against one over the folders in front of it alone. -/
structure Struck (m : Monitor) (early : List Folder) (f : Folder) (late : List Folder) (e : Fault)
    (alone done : Monitor × Tick) : Prop where
  whole : m.folders = early ++ f :: late
  fatal : e.isFatal = true
  cause : m.source.failCompletions = true ∧ e = .noCompletion f.text Source.outOfMemory ∨
    m.source.failResets = true ∧ e = .noReset f.text Source.invalidHandle
  gone : Table.get? done.1.registry f = none
  closed : ∀ h, h ∈ done.1.source.live ↔
    h ∈ alone.1.source.live ∧ ∀ s, Table.get? m.registry f = some s → h ∉ s.handles
  held : ∀ h ∈ done.1.source.live, ∃ g s, g ≠ f ∧ Table.get? done.1.registry g = some s ∧
    h ∈ s.handles
  healthy : alone.2.cut = none
  visits : done.2.visits = alone.2.visits
  told : ∃ log, done.2.log = alone.2.log ++ log
  others : ∀ g, g ≠ f → Table.get? done.1.registry g = Table.get? alone.1.registry g ∧
    done.1.source.script g = alone.1.source.script g
  untouched : ∀ g ∈ late, Table.get? done.1.registry g = Table.get? m.registry g ∧
    done.1.source.script g = m.source.script g

theorem tickStruck (sound : m.Sound) (failed : (m.tick isFolder).2.cut = some (.fault e)) :
    ∃ early f late, Struck m early f late e ({ m with folders := early }.tick isFolder)
      (m.tick isFolder) := by
  obtain ⟨early, f, late, log, whole, healthy, struck, visits, told⟩ := passStops failed
  have split := sound.once
  rw [whole] at split
  obtain ⟨onceEarly, onceRest, apart⟩ := List.nodup_append.mp split
  have inFront : ∀ g ∈ early, g ∈ m.folders := fun g inside =>
    whole ▸ List.mem_append_left _ inside
  have here : f ∈ m.folders := whole ▸ List.mem_append_right _ List.mem_cons_self
  have fresh : f ∉ early := fun inside => apart f inside f List.mem_cons_self rfl
  -- The monitor between the folders in front and the one that failed.
  have swept := sweep isFolder early m sound inFront onceEarly
  have before := swept.sound (Tick.returnsHealthy healthy)
  have after := (tickSwept isFolder sound).sound (Tick.returnsFault failed)
  have turn := visitProper isFolder before (swept.frame.folders ▸ here)
  have entries := fun g => visitEntries (g := g) (f := f) isFolder before
  rw [struck] at turn entries
  rw [swept.frame.surroundings isFolder] at turn
  obtain ⟨ends, dropped⟩ := Lane.visitFails turn.result.symm
  have gone : Table.get? (m.tick isFolder).1.registry f = none :=
    unwatchedIff.mp ((congrArg Lane.watched turn.lane).trans dropped)
  have former : Table.get? (m.visitAll isFolder early).1.registry f = Table.get? m.registry f :=
    passEntries sound inFront fresh
  have closed := before.closes after gone entries
  rw [former] at closed
  have others : ∀ g, g ≠ f → Table.get? (m.tick isFolder).1.registry g =
        Table.get? (m.visitAll isFolder early).1.registry g ∧
      (m.tick isFolder).1.source.script g = (m.visitAll isFolder early).1.source.script g :=
    fun g other => ⟨entries g other, congrArg Lane.script (turn.others g other)⟩
  refine ⟨early, f, late, ?_⟩
  simp only [tick, passAmong]
  constructor
  case whole => exact whole
  case fatal => exact Surroundings.Ends.fatal ends
  case cause => exact ends
  case gone => exact gone
  case closed => exact closed
  case held =>
    intro h inside
    obtain ⟨g, s, found, held⟩ := (after.opens h).mp inside
    refine ⟨g, s, ?_, found, held⟩
    rintro rfl
    cases gone.symm.trans found
  case healthy => exact healthy
  case visits => exact visits
  case told => exact ⟨log, told⟩
  case others => exact others
  case untouched =>
    intro g inside
    have outside : g ∉ early := fun front => apart g front g (List.mem_cons_of_mem _ inside) rfl
    have other : g ≠ f := fun same => (List.nodup_cons.mp onceRest).1 (same ▸ inside)
    obtain ⟨session, script⟩ := others g other
    exact ⟨session.trans (passEntries sound inFront outside),
      script.trans (congrArg Lane.script (swept.outside g outside))⟩

/-- A tick ends early with a fatal fault only. It names one folder, which is left without a session;
the folders in front are done as by a tick over them alone, those behind are as they were, and the
next tick that comes to the one that was struck opens it anew. -/
theorem fatalTickStopsCleanly (reached : Reachable m) (isFolder : String → Bool)
    (failed : (m.tick isFolder).2.stats = .error (.fault e)) :
    let n := (m.tick isFolder).1
    ∃ early f late,
      Struck m early f late e ({ m with folders := early }.tick isFolder) (m.tick isFolder) ∧
      ∀ acts, (∀ t ∈ (n.history isFolder acts).2,
          t.returns = true ∧ t.visits.length < early.length) →
        let k := (n.history isFolder acts).1
        Table.get? k.registry f = none ∧
        ∀ again, early.length ≤ (k.tick again).2.visits.length →
          let after := (k.tick again).1.source
          after.breaches = [] ∧
          ∃ refused, (k.source.script f).openFailures = refused + (after.script f).openFailures ∧
            (after.script f).opens + refused = (k.source.script f).opens + 1 := by
  intro n
  have sound := reached.sound
  have stopped := Tick.cutStats failed
  obtain ⟨early, f, late, struck⟩ := tickStruck sound stopped
  refine ⟨early, f, late, struck, ?_⟩
  intro acts later k
  have returned := fun t member => (later t member).1
  have swept := tickSwept isFolder sound
  have whole : n.folders = early ++ f :: late := swept.frame.folders.trans struck.whole
  have after := swept.sound (Tick.returnsFault stopped)
  obtain ⟨soundLater, folders⟩ := after.lived returned
  have missing : Table.get? k.registry f = none := by
    have same := staysUnreached after whole returned fun t member => (later t member).2
    exact unwatchedIff.mp (same.trans (unwatchedIff.mpr struck.gone))
  refine ⟨missing, fun again far => ⟨?_, ?_⟩⟩
  · exact (tickSwept again soundLater).frame.breaches.trans soundLater.proper
  · exact reachedOpens soundLater (folders.trans whole) missing far

theorem struckBetweenTwo :
    let a := Folder.ofText "a"
    let b := Folder.ofText "b"
    let c := Folder.ofText "c"
    let made : Monitor := ⟨.default, [a, b, c], .empty, [], .fresh, 0⟩
    let m := (made.history (fun _ => false) [.tick, .edit (.push a (.failure .timedOut)),
      .edit (.push b .overflow), .edit (.push c .overflow), .edit (.failResets true)]).1
    let t := m.tick fun _ => false
    let k := t.1.edit (.failResets false)
    Reachable m ∧ t.2.stats = .error (.fault (.noReset "b" Source.invalidHandle)) ∧
      Struck m [a] b [c] (.noReset "b" Source.invalidHandle)
        ({ m with folders := [a] }.tick fun _ => false) t ∧
      t.1.registry.keys = [c] ∧ (k.source.script b).opens = 1 ∧
      ∃ refused, (k.source.script b).openFailures = refused +
          ((k.tick fun _ => false).1.source.script b).openFailures ∧
        ((k.tick fun _ => false).1.source.script b).opens + refused = 2 := by
  intro a b c made m t k
  have reached : Reachable m :=
    (Reachable.created (show create .fresh [a, b, c] .default = .ok made from rfl)).lived
      (by decide)
  have failed : t.2.stats = .error (.fault (.noReset "b" Source.invalidHandle)) := by decide
  have opened : (k.source.script b).opens = 1 := by decide
  have far : 1 ≤ (k.tick fun _ => false).2.visits.length := by decide
  have listed : m.folders = [a, b, c] := by decide
  obtain ⟨early, f, late, struck, retried⟩ := fatalTickStopsCleanly reached (fun _ => false) failed
  have named : f.text = "b" := by
    rcases struck.cause with ⟨-, same⟩ | ⟨-, same⟩
    · cases same
    · exact (Fault.noReset.inj same).1.symm
  obtain ⟨rfl, rfl, rfl⟩ : early = [a] ∧ f = b ∧ late = [c] := by
    have whole := listed.symm.trans struck.whole
    rcases early with _ | ⟨x, _ | ⟨y, _ | ⟨z, rest⟩⟩⟩
    · cases whole
      exact absurd named (by decide)
    · cases whole
      exact ⟨rfl, rfl, rfl⟩
    · cases whole
      exact absurd named (by decide)
    · have lengths := congrArg List.length whole
      simp only [List.length_cons, List.length_append, List.length_nil] at lengths
      omega
  obtain ⟨-, again⟩ := retried [.edit (.failResets false)] (List.forall_mem_nil _)
  obtain ⟨-, refused, left, tried⟩ := again (fun _ => false) far
  exact ⟨reached, failed, struck, by decide, opened, refused, left,
    tried.trans (congrArg (· + 1) opened)⟩

end Monitor
end FolderWatch
