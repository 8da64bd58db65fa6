import FolderWatch.Proofs.Monitor.Balance
import FolderWatch.Proofs.Session.Told

/-! What a tick complains of. The session and the watch above it both do, and one visit may give
reasons to both; told for a lane alone, each reason gives one message, and a whole tick tells what
its folders do, one after the other. -/
namespace FolderWatch

open Message (loud said ofFault loudAppend)

/-- The errors said of what cut a tick short; of a panic nothing is said. -/
def Cut.errors : Cut → List Message
  | .fault e => [.fatal e]
  | .panic _ => []

namespace Outcome

def malformed (size : Nat) : Outcome → Bool
  | .records bytes =>
      decide (0 < bytes.length ∧ bytes.length ≤ size) && (Chain.read bytes).fault?.isSome
  | _ => false

theorem complaintCounts (size : Nat) (f : Folder) (o : Outcome) :
    (o.complaint? size f).toList.length =
      o.overflows.toNat + (o.misfits size).toNat + (o.malformed size).toNat := by
  cases o with
  | records bytes =>
    by_cases ready : 0 < bytes.length ∧ bytes.length ≤ size
    · have fits : ¬ (bytes.length = 0 ∨ size < bytes.length) := by omega
      simp only [complaint?, overflows, misfits, malformed, ready, fits]
      cases (Chain.read bytes).fault? <;> rfl
    · have misfit : bytes.length = 0 ∨ size < bytes.length := by omega
      simp only [complaint?, overflows, misfits, malformed, ready, misfit]
      rfl
  | _ => rfl

theorem anyFirst {p : Outcome → Bool} (idle : p .pending = false) (outcomes : List Outcome) :
    (outcomes.take 1).head?.any p = p (outcomes.headD .pending) := by
  cases outcomes with
  | nil => exact idle.symm
  | cons o rest => rfl

end Outcome

namespace Lane

variable {c : Surroundings} {f : Folder} {l : Lane}

def lookTells (c : Surroundings) (f : Folder) (x : Script) : List Message :=
  ((x.outcomes.headD .pending).complaint? c.size f).toList ++
    Poll.complaints (x.poll c.size c.failResets f).2

def tells (c : Surroundings) (f : Folder) (l : Lane) : List Message :=
  if l.watched then lookTells c f l.script
  else
    match l.script.start c.failCompletions f with
    | (x, none) => lookTells c f x
    | (_, some fault) => [ofFault fault]

theorem tellsStarted {x rest : Script} (answer : x.start c.failCompletions f = (rest, none)) :
    tells c f ⟨x, false⟩ = lookTells c f rest := by
  simp only [tells, answer, Bool.false_eq_true, if_false]

theorem tellsRefused {x rest : Script} {fault : Fault}
    (answer : x.start c.failCompletions f = (rest, some fault)) :
    tells c f ⟨x, false⟩ = [ofFault fault] := by
  simp only [tells, answer, Bool.false_eq_true, if_false]

def errors : Except Cut Visit → List Message
  | .error cut => cut.errors
  | .ok _ => []

theorem lookErrors (c : Surroundings) (f : Folder) (opened : Bool) (x : Script) :
    said .error (lookTells c f x) = errors (attend c f opened x).result := by
  have answers := x.pollAnswers c.size c.failResets f
  have way := attended c f opened x
  rw [lookTells, Message.saidAppend, (Outcome.complaintSaid _ _ _).2, List.nil_append]
  generalize attend c f opened x = done at way ⊢
  cases way with
  | failed answer =>
    rw [answer] at answers ⊢
    exact answers.ends
  | waits answer =>
    rw [answer]
    rfl
  | ended answer _ _ | unwound answer _ _ =>
    rw [answer] at answers ⊢
    exact answers.warns.1

theorem tellsOf (c : Surroundings) (f : Folder) (l : Lane) :
    (∃ opened x, l.visit c f = attend c f opened x ∧ l.tells c f = lookTells c f x) ∨
      ∃ x fault, l.visit c f = ⟨⟨x, false⟩, [],
          if fault.isFatal then .error (.fault fault) else .ok ⟨f, false, none, false⟩⟩ ∧
        l.tells c f = [ofFault fault] := by
  unfold visit tells
  cases l.watched with
  | true => exact .inl ⟨false, l.script, rfl, rfl⟩
  | false =>
    simp only [Bool.false_eq_true, if_false]
    cases l.script.start c.failCompletions f with
    | mk x outcome =>
      cases outcome with
      | none => exact .inl ⟨true, x, rfl, rfl⟩
      | some fault => exact .inr ⟨x, fault, rfl, rfl⟩

theorem tellsErrors (c : Surroundings) (f : Folder) (l : Lane) :
    said .error (l.tells c f) = errors (l.visit c f).result := by
  rcases tellsOf c f l with ⟨opened, x, visit, tells⟩ | ⟨x, fault, visit, tells⟩
  · rw [visit, tells]
    exact lookErrors c f opened x
  · rw [visit, tells, ofFault]
    cases fault.isFatal <;> rfl

def reasons (size : Nat) (v : Visit) (popped : Option Outcome) : Nat :=
  v.finding.isNone.toNat + v.evicted.toNat + (popped.any Outcome.overflows).toNat +
    (popped.any (Outcome.misfits size)).toNat + (popped.any (Outcome.malformed size)).toNat

theorem lookWarnings {opened : Bool} {x : Script} {v : Visit}
    (ended : (attend c f opened x).result = .ok v) : (said .warn (lookTells c f x)).length =
      reasons c.size v (attend c f opened x).taken.head? := by
  have answers := x.pollAnswers c.size c.failResets f
  have counts := Outcome.complaintCounts c.size f (x.outcomes.headD .pending)
  rw [reasons, attendTaken, Outcome.anyFirst rfl, Outcome.anyFirst rfl, Outcome.anyFirst rfl, lookTells,
    Message.saidAppend, (Outcome.complaintSaid _ _ _).1, List.length_append, counts]
  have way := attended c f opened x
  generalize attend c f opened x = done at way ended
  cases way with
  | failed _ | unwound _ _ _ => cases ended
  | waits answer =>
    cases ended
    rw [answer]
    simp only [Option.isNone_some, Bool.toNat_false, Nat.zero_add]
    rfl
  | ended answer _ _ =>
    cases ended
    rw [answer] at answers ⊢
    rw [answers.warns.2]
    simp only [Option.isNone_some, Bool.toNat_false, Nat.zero_add]
    omega

theorem tellsWarnings
    (fewer : ∀ {es kept : List Event}, c.keep es = .ok kept → kept.length ≤ es.length) {v : Visit}
    (ended : (l.visit c f).result = .ok v) :
    let share := TickStats.ofVisit v
    (said .warn (l.tells c f)).length =
      share.initFailures + share.overflows + share.tooSmall + share.evicted +
        ((l.visit c f).taken.head?.any (Outcome.malformed c.size)).toNat := by
  have booked := visitBooks fewer ended
  have told : (said .warn (l.tells c f)).length =
      reasons c.size v (l.visit c f).taken.head? := by
    rcases tellsOf c f l with ⟨opened, x, visit, tells⟩ | ⟨x, fault, visit, tells⟩
    · rw [visit] at ended ⊢
      rw [tells]
      exact lookWarnings ended
    · rw [visit] at ended ⊢
      rw [tells, ofFault]
      cases fatal : fault.isFatal <;> rw [fatal] at ended <;> cases ended
      rfl
  have refused : (TickStats.ofVisit v).initFailures = v.finding.isNone.toNat := by
    rw [TickStats.ofVisitParts]
    rcases v.finding with _ | _ | _ | _ | _ | _ <;> rfl
  have evicted : (TickStats.ofVisit v).evicted = v.evicted.toNat := by
    rw [TickStats.ofVisitParts]
  intro share
  rw [told, reasons, refused, evicted, booked.overflows, booked.tooSmall]
  omega

end Lane

namespace Monitor

variable {isFolder : String → Bool} {m : Monitor} {f : Folder} {s : Session}

theorem attendTells (isFolder : String → Bool) (opened : Bool)
    (armed : s.Armed m.source m.settings.bufferBytes) (given : s.dir < m.source.next)
    (own : s.folder = f) : loud (m.attend isFolder f opened s).2.2 =
      Lane.lookTells (m.surroundings isFolder f) f (m.source.script f) := by
  have told := Session.pollTells armed
  rw [(Session.pollProper armed given).value, own] at told
  refine Eq.trans ?_ told
  unfold attend
  dsimp only
  split
  · rw [loudAppend, loudAppend, Session.releaseTells, List.append_nil]
    exact List.append_nil _
  · split
    · rfl
    · split
      · rfl
      · split
        · rw [loudAppend, loudAppend, Session.releaseTells, List.append_nil]
          exact List.append_nil _
        · rfl

theorem visitTells (isFolder : String → Bool) (sound : m.Sound) (f : Folder) :
    loud (m.visit isFolder f).2.2 = (m.lane f).tells (m.surroundings isFolder f) f := by
  have way := visitWent isFolder sound f
  have quiet := Session.startTells m.source f m.settings
  generalize (m.lane f).visit (m.surroundings isFolder f) f = account at way
  generalize m.visit isFolder f = done at way ⊢
  cases way with
  | @held s here =>
    have inside := Table.memOfGet here
    rw [heldLane here]
    exact attendTells isFolder false (sound.armed f s inside) (sound.given inside)
      (sound.own f s inside)
  | @started s x source log missing answer start begun done looked =>
    obtain ⟨kept, script, -, -, -, opened⟩ := begun
    obtain ⟨_, same, own, armed, -, order, last, -⟩ := opened rfl
    cases same
    have told := attendTells (m := { m with registry := m.registry.insert s, source := source })
      isFolder true armed (order.trans last) own
    rw [looked, (frameKept kept).surroundings isFolder, script] at told
    rw [start] at quiet
    rw [missingLane missing, Lane.tellsStarted answer, loudAppend]
    exact (congrArg (· ++ loud done.2.2) quiet).trans told
  | refused missing answer start begun recoverable =>
    rw [start] at quiet
    rw [missingLane missing, Lane.tellsRefused answer, loudAppend, ofFault, recoverable]
    exact congrArg (· ++ _) quiet
  | struck missing answer start begun fatal =>
    rw [start] at quiet
    rw [missingLane missing, Lane.tellsRefused answer, loudAppend, ofFault, fatal]
    exact congrArg (· ++ _) quiet

def told (isFolder : String → Bool) (m : Monitor) (f : Folder) : List Message :=
  (m.lane f).tells (m.surroundings isFolder f) f

theorem sweepTells (isFolder : String → Bool) (fs : List Folder) (sound : m.Sound)
    (inside : ∀ f ∈ fs, f ∈ m.folders) (once : fs.Nodup) :
    let done := (m.visitAll isFolder fs).2
    loud done.log = (fs.take (done.visits.length + 1)).flatMap (told isFolder m) := by
  induction fs generalizing m with
  | nil => rfl
  | cons f fs ih =>
    obtain ⟨fresh, once⟩ := List.nodup_cons.mp once
    have turn := visitProper isFolder sound (inside f List.mem_cons_self)
    have heard := visitTells isFolder sound f
    simp only [visitAll]
    generalize m.visit isFolder f = done at turn heard
    obtain ⟨n, result, log⟩ := done
    have others : ∀ g, g ≠ f → n.lane g = m.lane g := turn.others
    have same : n.surroundings isFolder = m.surroundings isFolder := turn.frame.surroundings isFolder
    cases result with
    | error cut => exact heard.trans (List.append_nil _).symm
    | ok v =>
      have rest := ih (turn.sound (okReturns v))
        (fun g later => turn.frame.folders ▸ inside g (List.mem_cons_of_mem _ later)) once
      -- The visit moves no lane but its own, and its folder does not come again.
      have ahead : ∀ g ∈ fs, told isFolder n g = told isFolder m g := by
        intro g later
        have other : g ≠ f := fun same => fresh (same ▸ later)
        simp only [told, others g other, same]
      have later := rest.trans
        (List.flatMap_congr fun g among => ahead g (List.mem_of_mem_take among))
      simp only [loudAppend, List.length_cons, List.take_succ_cons, List.flatMap_cons]
      rw [← later]
      exact congrArg (· ++ _) heard

theorem Halt.errors {n : Monitor} {fs : List Folder} {visits : List Visit} {cut : Option Cut}
    (halt : Halt isFolder m n fs visits cut)
    (visited : ∀ v ∈ visits,
      ((m.lane v.folder).visit (m.surroundings isFolder v.folder) v.folder).result = .ok v) :
    (fs.take (visits.length + 1)).flatMap (fun f => said .error (told isFolder m f)) =
      cut.toList.flatMap Cut.errors := by
  have quiet : (visits.map Visit.folder).flatMap (fun f => said .error (told isFolder m f)) = [] := by
    rw [List.flatMap_eq_nil_iff]
    intro f among
    obtain ⟨v, inside, rfl⟩ := List.mem_map.mp among
    rw [told, Lane.tellsErrors, visited v inside, Lane.errors]
  cases halt with
  | behind =>
    rw [List.take_of_length_le (by rw [List.length_map]; exact Nat.le_succ _), quiet]
    rfl
  | struck visits f rest cut failed =>
    have reached : (visits.map Visit.folder ++ f :: rest).take (visits.length + 1) =
        visits.map Visit.folder ++ [f] := by
      rw [← List.length_map Visit.folder, List.take_length_add_append]
      rfl
    rw [reached, List.flatMap_append, quiet, List.nil_append, List.flatMap_singleton, told,
      Lane.tellsErrors, failed]
    exact (List.append_nil _).symm

theorem tickErrors (isFolder : String → Bool) (sound : m.Sound) :
    said .error (m.tick isFolder).2.log = (m.tick isFolder).2.cut.toList.flatMap Cut.errors := by
  have tells := sweepTells isFolder m.folders sound (fun _ inside => inside) sound.once
  have swept := tickSwept isFolder sound
  rw [← Message.saidLoud (by decide)]
  refine (congrArg _ tells).trans ?_
  rw [said, List.filter_flatMap]
  exact swept.halt.errors fun v inside => (swept.visited v inside).1

theorem warningsOfVisits (size : Nat) (tells : Folder → List Message)
    (popped : Folder → Option Outcome) (vs : List Visit) (each : ∀ v ∈ vs,
      let share := TickStats.ofVisit v
      (said .warn (tells v.folder)).length =
        share.initFailures + share.overflows + share.tooSmall + share.evicted +
          ((popped v.folder).any (Outcome.malformed size)).toNat) :
    let stats := TickStats.ofVisits vs
    (said .warn ((vs.map Visit.folder).flatMap tells)).length =
      stats.initFailures + stats.overflows + stats.tooSmall + stats.evicted +
        (vs.map Visit.folder).countP fun f => (popped f).any (Outcome.malformed size) := by
  induction vs with
  | nil => rfl
  | cons v vs ih =>
    have first := each v List.mem_cons_self
    have rest := ih fun w inside => each w (List.mem_cons_of_mem _ inside)
    dsimp only at first rest ⊢
    rw [TickStats.ofVisitsCons, List.map_cons, List.flatMap_cons, Message.saidAppend,
      List.length_append, first, rest, countFrom]
    simp only [TickStats.plus]
    omega

theorem tickWarnings (sound : m.Sound) (healthy : (m.tick isFolder).2.cut = none) :
    let stats := TickStats.ofVisits (m.tick isFolder).2.visits
    (said .warn (m.tick isFolder).2.log).length =
      stats.initFailures + stats.overflows + stats.tooSmall + stats.evicted +
        m.folders.countP fun f =>
          (popped isFolder m f).any (Outcome.malformed m.settings.bufferBytes) := by
  have tells := sweepTells isFolder m.folders sound (fun _ inside => inside) sound.once
  have swept := tickSwept isFolder sound
  have whole := (healthy ▸ swept.halt).whole
  have all : m.folders.length ≤ (m.visitAll isFolder m.folders).2.visits.length + 1 := by
    rw [← congrArg List.length whole, List.length_map]
    exact Nat.le_succ _
  have each := warningsOfVisits m.settings.bufferBytes (told isFolder m) (popped isFolder m)
    (m.tick isFolder).2.visits fun v inside =>
      Lane.tellsWarnings Exclude.Filter.keepShorter (swept.visited v inside).1
  dsimp only at tells
  rw [List.take_of_length_le all] at tells
  rw [whole] at each
  rw [← Message.saidLoud (by decide)]
  exact (congrArg (fun log => (said .warn log).length) tells).trans each

/-- A tick that comes to its end says one warning for each failure that it counts and each buffer it
could not read to its end, and no error; a tick cut short says one error, that of its fault. -/
theorem everyFailureToldOnce (reached : Reachable m) (isFolder : String → Bool) :
    let t := (m.tick isFolder).2
    let n := (m.tick isFolder).1
    (∀ stats, t.stats = .ok stats →
      said .error t.log = [] ∧
        ∃ popped : Folder → Option Outcome,
          (∀ f ∈ m.folders,
            (m.source.script f).outcomes = (popped f).toList ++ (n.source.script f).outcomes) ∧
          (said .warn t.log).length =
            stats.initFailures + stats.overflows + stats.tooSmall + stats.evicted +
              m.folders.countP fun f =>
                (popped f).any (Outcome.malformed m.settings.bufferBytes)) ∧
      ∀ fault, t.stats = .error (.fault fault) →
        (said .error t.log).map Message.text = [fault.message] := by
  intro t n
  have sound := reached.sound
  have errors := tickErrors isFolder sound
  refine ⟨fun stats ended => ?_, fun fault failed => ?_⟩
  · obtain ⟨healthy, rfl⟩ := Tick.endedStats ended
    rw [healthy] at errors
    refine ⟨errors, popped isFolder m, ?_, tickWarnings sound healthy⟩
    intro f inside
    obtain ⟨v, -, -, -, left⟩ := (tickSwept isFolder sound).comesTo healthy inside
    have takes := Lane.visitTakes (m.surroundings isFolder f) f (m.lane f)
    rw [← left, Lane.visitTakesOne] at takes
    exact takes
  · rw [Tick.cutStats failed] at errors
    rw [errors]
    rfl

/-- A folder that cannot be opened, one whose read cannot be issued again, an overflow, a read of
nothing, a failed read and a torn buffer; after that, a completion that cannot be reset. -/
theorem sixWarningsOrOneError :
    let fs := ["a", "b", "c", "d", "e", "f"].map Folder.ofText
    let a := Folder.ofText "a"
    let b := Folder.ofText "b"
    let c := Folder.ofText "c"
    let d := Folder.ofText "d"
    let e := Folder.ofText "e"
    let f := Folder.ofText "f"
    let made : Monitor := ⟨.default, fs, .empty, [], .fresh, 0⟩
    let m := (made.history (fun _ => false) [.edit (.failOpens a 2), .tick,
      .edit (.push b (.records (Draft.push .empty 1 "x").finish.1)), .edit (.failReads b 1),
      .edit (.push c .overflow), .edit (.push d .nothing), .edit (.push e (.failure .timedOut)),
      .edit (.push f (.records [1, 2, 3]))]).1
    let n := (m.history (fun _ => false) [.edit (.failResets true)]).1
    let fault : Fault := .noReset "b" Source.invalidHandle
    Reachable m ∧ (m.tick fun _ => false).2.stats = .ok ⟨0, 1, 0, 1, 0, 1, 1, 2⟩ ∧
      said .error (m.tick fun _ => false).2.log = [] ∧
      (said .warn (m.tick fun _ => false).2.log).length = 6 ∧
      (∃ popped : Folder → Option Outcome,
        m.folders.countP (fun g => (popped g).any (Outcome.malformed m.settings.bufferBytes)) = 1) ∧
      Reachable n ∧ (n.tick fun _ => false).2.stats = .error (.fault fault) ∧
      (said .error (n.tick fun _ => false).2.log).map Message.text = [fault.message] := by
  intro fs a b c d e f made m n fault
  have reached : Reachable m :=
    (Reachable.created (show create .fresh fs .default = .ok made from rfl)).lived
      (by decide +kernel)
  have later : Reachable n := reached.lived (List.forall_mem_nil _)
  have ended : (m.tick fun _ => false).2.stats = .ok ⟨0, 1, 0, 1, 0, 1, 1, 2⟩ := by decide +kernel
  have failed : (n.tick fun _ => false).2.stats = .error (.fault fault) := by decide +kernel
  have six : (said .warn (m.tick fun _ => false).2.log).length = 6 := by decide +kernel
  obtain ⟨quiet, popped, -, warned⟩ := (everyFailureToldOnce reached _).1 _ ended
  have torn : 5 + m.folders.countP (fun g =>
      (popped g).any (Outcome.malformed m.settings.bufferBytes)) = 5 + 1 := warned.symm.trans six
  exact ⟨reached, ended, quiet, six, ⟨popped, Nat.add_left_cancel torn⟩, later, failed,
    (everyFailureToldOnce later _).2 _ failed⟩

end Monitor
end FolderWatch
