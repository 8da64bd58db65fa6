import FolderWatch.Proofs.Monitor.Sound

/-! A visit to a folder of a sound monitor. What it answers and what it does to the folder is the
visit to the folder's lane alone, and no other lane moves. -/
namespace FolderWatch.Monitor

structure Turn (m : Monitor) (f : Folder) (account : Passage)
    (done : Monitor × Except Cut Visit × List Message) : Prop where
  sound : (∀ cut, done.2.1 = .error cut → cut.returns = true) → done.1.Sound
  frame : Frame m done.1
  lane : done.1.lane f = account.lane
  result : done.2.1 = account.result
  others : ∀ g, g ≠ f → done.1.lane g = m.lane g

variable {m : Monitor} {f : Folder} {s : Session} {source : Source} {account : Passage}

theorem okReturns (v : Visit) :
    ∀ cut, (Except.ok v : Except Cut Visit) = .error cut → cut.returns = true := by
  intro cut same
  cases same

theorem findingAlone (isFolder : String → Bool) (m : Monitor) (f : Folder) (r : Option Reading) :
    finding isFolder m.filter f r = (m.surroundings isFolder f).finding r := by
  cases r with
  | none => rfl
  | some r => cases r <;> rfl

theorem insertLane (own : s.folder = f) :
    { m with registry := m.registry.insert s, source := source }.lane f =
      ⟨source.script f, true⟩ := by
  simp only [lane, Registry.insert, own, Table.getSet, if_true, Option.isSome_some]

theorem insertOther {g : Folder} (own : s.folder = f) (kept : m.source.Kept f source)
    (other : g ≠ f) :
    { m with registry := m.registry.insert s, source := source }.lane g = m.lane g := by
  simp only [lane, Registry.insert, own, Table.getSet, Ne.symm other, if_false,
    kept.scripts g other]

theorem eraseLane :
    { m with registry := Table.erase m.registry f, source := source }.lane f =
      ⟨source.script f, false⟩ := by
  simp only [lane, Table.getErase, if_true, Option.isSome_none]

theorem eraseOther {g : Folder} (kept : m.source.Kept f source) (other : g ≠ f) :
    { m with registry := Table.erase m.registry f, source := source }.lane g = m.lane g := by
  simp only [lane, Table.getErase, Ne.symm other, if_false, kept.scripts g other]

section Ends

variable {ready : Session} {taken : List Outcome} {result : Except Cut Visit} {log : List Message}

theorem turnKept (sound : m.Sound) (here : Table.get? m.registry f = some s)
    (steady : m.source.Steady f source) (own : ready.folder = f)
    (handles : ready.handles = s.handles)
    (armed : ready.Armed source m.settings.bufferBytes) :
    Turn m f ⟨⟨source.script f, true⟩, taken, result⟩
      ({ m with registry := m.registry.insert ready, source := source }, result, log) where
  sound _ := sound.replaced here steady own handles armed
  frame := frameKept steady.kept
  lane := insertLane own
  result := rfl
  others _ other := insertOther own steady.kept other

theorem turnDropped (sound : m.Sound) (here : Table.get? m.registry f = some s)
    (steady : m.source.Steady f source) (handles : ready.handles = s.handles)
    (idle : ready.outstanding = false) :
    Turn m f ⟨⟨source.script f, false⟩, taken, result⟩
      ({ m with registry := Table.erase m.registry f, source := (ready.release source).source },
        result, log) := by
  obtain ⟨dir, completion⟩ : ready.dir = s.dir ∧ ready.completion = s.completion := by
    simpa only [Session.handles, List.cons.injEq, and_true] using handles
  have released : (ready.release source).source = (source.close s.dir).close s.completion := by
    simp only [Session.release, idle, Bool.false_eq_true, if_false, dir, completion]
  have kept := (steady.kept.trans (source.keptClose f s.dir)).trans
    ((source.close s.dir).keptClose f s.completion)
  rw [released]
  exact ⟨fun _ => sound.dropped here steady, frameKept kept, eraseLane, rfl,
    fun _ other => eraseOther kept other⟩

theorem turnUnwound (steady : m.source.Steady f source) (own : ready.folder = f) (panic : Panic) :
    Turn m f ⟨⟨source.script f, true⟩, taken, .error (.panic panic)⟩
      ({ m with registry := m.registry.insert ready, source := source }, .error (.panic panic),
        log) where
  sound returns := nomatch returns _ rfl
  frame := frameKept steady.kept
  lane := insertLane own
  result := rfl
  others _ other := insertOther own steady.kept other

end Ends

theorem attendProper (isFolder : String → Bool) (opened : Bool) (sound : m.Sound)
    (here : Table.get? m.registry f = some s) :
    Turn m f (Lane.attend (m.surroundings isFolder f) f opened (m.source.script f))
      (m.attend isFolder f opened s) := by
  have inside := Table.memOfGet here
  have own := sound.own f s inside
  have turned := Session.pollProper (sound.armed f s inside) (sound.given inside)
  have asked : (m.source.script f).poll (m.surroundings isFolder f).size
      (m.surroundings isFolder f).failResets f =
      (m.source.script f).poll m.settings.bufferBytes m.source.failResets f := rfl
  simp only [attend, Lane.attend, asked, findingAlone]
  rw [own] at turned
  generalize (m.source.script f).poll m.settings.bufferBytes m.source.failResets f = answer at turned
  generalize s.poll m.source = done at turned
  obtain ⟨rest, outcome⟩ := answer
  obtain ⟨⟨ready, value⟩, after, log⟩ := done
  obtain ⟨steady, script, value, folder, handles, ended, armed⟩ := turned
  dsimp only at *
  rw [own] at steady script
  subst value script
  cases value with
  | error fault => exact turnDropped sound here steady handles (ended rfl)
  | ok p =>
    by_cases pending : p.isPending = true
    · have alive : Poll.ends (.ok p) = false := by
        cases p.pendingIff.mp pending
        rfl
      simp only [pending, if_true]
      exact turnKept sound here steady (folder.trans own) handles (armed alive)
    · simp only [pending, Bool.false_eq_true, if_false]
      cases (m.surroundings isFolder f).finding p.reading with
      | error panic => exact turnUnwound steady (folder.trans own) panic
      | ok found =>
        cases evicts : p.mustEvict with
        | true =>
          simp only [if_true]
          exact turnDropped sound here steady handles (ended evicts)
        | false =>
          simp only [Bool.false_eq_true, if_false]
          exact turnKept sound here steady (folder.trans own) handles (armed evicts)

theorem Turn.after {between : Monitor} {done : Monitor × Except Cut Visit × List Message}
    (turn : Turn between f account done) (frame : Frame m between)
    (others : ∀ g, g ≠ f → between.lane g = m.lane g) (log : List Message) :
    Turn m f account (done.1, done.2.1, log) where
  sound := turn.sound
  frame := frame.trans turn.frame
  lane := turn.lane
  result := turn.result
  others g other := (turn.others g other).trans (others g other)

theorem heldLane (here : Table.get? m.registry f = some s) : m.lane f = ⟨m.source.script f, true⟩ := by
  simp only [lane, here, Option.isSome_some]

theorem missingLane (missing : Table.get? m.registry f = none) :
    m.lane f = ⟨m.source.script f, false⟩ := by
  simp only [lane, missing, Option.isSome_none]

theorem turnRefused {fault : Fault} {x : Script} {done : Done (Except Fault Session)}
    {result : Except Cut Visit} {log : List Message} (sound : m.Sound)
    (missing : Table.get? m.registry f = none)
    (begun : Session.Started m.source f m.settings.bufferBytes (x, some fault) done) :
    Turn m f ⟨⟨x, false⟩, [], result⟩ ({ m with source := done.source }, result, log) := by
  obtain ⟨kept, script, -, numbered, refused, -⟩ := begun
  refine ⟨fun _ => sound.refused kept numbered (refused fault rfl).2, frameKept kept, ?_, rfl, ?_⟩
  · exact (missingLane (m := { m with source := done.source }) missing).trans (by rw [script])
  · intro g other
    simp only [lane, kept.scripts g other]

inductive Went (isFolder : String → Bool) (m : Monitor) (f : Folder) :
    Passage → Monitor × Except Cut Visit × List Message → Prop
  | held {s : Session} (here : Table.get? m.registry f = some s) :
      Went isFolder m f (Lane.attend (m.surroundings isFolder f) f false (m.source.script f))
        (m.attend isFolder f false s)
  | started {s : Session} {x : Script} {source : Source} {log : List Message}
      (missing : Table.get? m.registry f = none)
      (answer : (m.source.script f).start m.source.failCompletions f = (x, none))
      (start : Session.start m.source f m.settings = ⟨.ok s, source, log⟩)
      (begun : Session.Started m.source f m.settings.bufferBytes (x, none) ⟨.ok s, source, log⟩)
      {done : Monitor × Except Cut Visit × List Message}
      (looked : { m with registry := m.registry.insert s, source := source }.attend
        isFolder f true s = done) :
      Went isFolder m f (Lane.attend (m.surroundings isFolder f) f true x)
        (done.1, done.2.1, .preparing f :: log ++ done.2.2)
  | refused {fault : Fault} {x : Script} {source : Source} {log : List Message}
      (missing : Table.get? m.registry f = none)
      (answer : (m.source.script f).start m.source.failCompletions f = (x, some fault))
      (start : Session.start m.source f m.settings = ⟨.error fault, source, log⟩)
      (begun : Session.Started m.source f m.settings.bufferBytes (x, some fault)
        ⟨.error fault, source, log⟩)
      (recoverable : fault.isFatal = false) :
      Went isFolder m f ⟨⟨x, false⟩, [], .ok ⟨f, false, none, false⟩⟩
        ({ m with source := source }, .ok ⟨f, false, none, false⟩,
          .preparing f :: log ++ [.recoverable fault])
  | struck {fault : Fault} {x : Script} {source : Source} {log : List Message}
      (missing : Table.get? m.registry f = none)
      (answer : (m.source.script f).start m.source.failCompletions f = (x, some fault))
      (start : Session.start m.source f m.settings = ⟨.error fault, source, log⟩)
      (begun : Session.Started m.source f m.settings.bufferBytes (x, some fault)
        ⟨.error fault, source, log⟩)
      (fatal : fault.isFatal = true) :
      Went isFolder m f ⟨⟨x, false⟩, [], .error (.fault fault)⟩
        ({ m with source := source }, .error (.fault fault), .preparing f :: log ++ [.fatal fault])

theorem visitWent (isFolder : String → Bool) (sound : m.Sound) (f : Folder) :
    Went isFolder m f ((m.lane f).visit (m.surroundings isFolder f) f) (m.visit isFolder f) := by
  cases here : Table.get? m.registry f with
  | some s =>
    simp only [visit, here, heldLane here, Lane.visit, if_true]
    exact .held here
  | none =>
    have begun := Session.startProper (f := f) sound.numbered sound.small
    have asked : (m.source.script f).start (m.surroundings isFolder f).failCompletions f =
        (m.source.script f).start m.source.failCompletions f := rfl
    simp only [visit, here, missingLane here, Lane.visit, asked, Bool.false_eq_true, if_false]
    cases start : Session.start m.source f m.settings with
    | mk value source log =>
      cases answer : (m.source.script f).start m.source.failCompletions f with
      | mk x outcome =>
        rw [start, answer] at begun
        cases outcome with
        | some fault =>
          obtain ⟨rfl, -⟩ := begun.refused fault rfl
          dsimp only
          cases fatal : fault.isFatal with
          | true => exact .struck here answer start begun fatal
          | false => exact .refused here answer start begun fatal
        | none =>
          obtain ⟨s, rfl, own, -⟩ := begun.opened rfl
          simp only [own, here, Option.isSome_none, Source.noteNothing]
          exact .started here answer start begun rfl

theorem visitProper (isFolder : String → Bool) (sound : m.Sound) (inside : f ∈ m.folders) :
    Turn m f ((m.lane f).visit (m.surroundings isFolder f) f) (m.visit isFolder f) := by
  have way := visitWent isFolder sound f
  generalize (m.lane f).visit (m.surroundings isFolder f) f = account at way ⊢
  generalize m.visit isFolder f = done at way ⊢
  cases way with
  | held here => exact attendProper isFolder false sound here
  | refused missing _ _ begun _ => exact turnRefused sound missing begun
  | struck missing _ _ begun _ => exact turnRefused sound missing begun
  | @started s x source log missing _ _ begun done looked =>
    obtain ⟨kept, script, -, numbered, -, opened⟩ := begun
    obtain ⟨_, same, own, armed, dir, order, -, live⟩ := opened rfl
    cases same
    have frame := frameKept (r := m.registry.insert s) kept
    have there : Table.get? (m.registry.insert s) f = some s := by
      simp only [Registry.insert, own, Table.getSet, if_true]
    have turn := attendProper isFolder true
      (sound.added inside missing kept numbered own armed dir order live) there
    rw [frame.surroundings isFolder, looked, script] at turn
    exact turn.after frame (fun g other => insertOther own kept other) _

end FolderWatch.Monitor
