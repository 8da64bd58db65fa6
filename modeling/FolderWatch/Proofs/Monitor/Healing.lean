import FolderWatch.Proofs.Monitor.Accounts
import FolderWatch.Proofs.Monitor.Apart

/-! What failures cost. A failure strikes at an open, at a first read, at a completion or at a read
issued anew. Wherever it strikes, the folder is without a session after that one tick, and the next
tick tries to open it again. -/
namespace FolderWatch

namespace Outcome

def fails : Outcome → Bool
  | .failure _ => true
  | _ => false

theorem readSucceeds {size : Nat} {f : Folder} {o : Outcome} {r : Reading}
    (read : o.reading? size f = some r) : o.fails = false := by
  cases o with
  | failure kind => cases read
  | _ => rfl

end Outcome

def Poll.evicts : Except Fault Poll → Bool
  | .error _ => false
  | .ok p => p.mustEvict

namespace Script

variable {f : Folder}

/-- The failures that a script loses on the way to another, of opens and of reads. -/
structure Loses (x y : Script) (opens reads : Nat) : Prop where
  opens : x.openFailures = opens + y.openFailures
  reads : x.readFailures = reads + y.readFailures

theorem Loses.trans {x y z : Script} {opens reads laterOpens laterReads : Nat}
    (first : Loses x y opens reads) (second : Loses y z laterOpens laterReads) :
    Loses x z (opens + laterOpens) (reads + laterReads) where
  opens := by rw [first.opens, second.opens, Nat.add_assoc]
  reads := by rw [first.reads, second.reads, Nat.add_assoc]

theorem issueLoses (x : Script) :
    Loses x (x.issue f).1 0 (x.issue f).2.isSome.toNat ∧ (x.issue f).1.opens = x.opens := by
  unfold issue
  split
  · next n left => exact ⟨⟨(Nat.zero_add _).symm, left.trans (Nat.add_comm n 1)⟩, rfl⟩
  · exact ⟨⟨(Nat.zero_add _).symm, (Nat.zero_add _).symm⟩, rfl⟩

theorem startLoses (x : Script) (failCompletions : Bool) : ∃ opens reads,
    Loses x (x.start failCompletions f).1 opens reads ∧
      (x.start failCompletions f).1.opens + opens = x.opens + 1 ∧
      opens + reads = ((x.start failCompletions f).2.any (!·.isFatal)).toNat := by
  obtain ⟨lost, opens⟩ := x.opened.issueLoses (f := f)
  unfold start
  split
  · next n left => exact ⟨1, 0, ⟨left.trans (Nat.add_comm n 1), (Nat.zero_add _).symm⟩, rfl, rfl⟩
  · split
    · exact ⟨0, 0, ⟨(Nat.zero_add _).symm, (Nat.zero_add _).symm⟩, rfl, rfl⟩
    · refine ⟨0, _, ⟨lost.opens, lost.reads⟩, opens, ?_⟩
      unfold issue
      split <;> rfl

theorem rearmLoses (x : Script) (failResets : Bool) (r : Reading) :
    Loses x (x.rearm failResets f r).1 0 (Poll.evicts (x.rearm failResets f r).2).toNat ∧
      (x.rearm failResets f r).1.opens = x.opens := by
  unfold rearm
  split
  · exact ⟨⟨(Nat.zero_add _).symm, (Nat.zero_add _).symm⟩, rfl⟩
  · exact x.issueLoses

theorem pollLoses (x : Script) (size : Nat) (failResets : Bool) : ∃ reads,
    Loses x (x.poll size failResets f).1 0 reads ∧
      (x.poll size failResets f).1.opens = x.opens ∧
      reads + (x.outcomes.take 1).countP Outcome.fails =
        (Poll.evicts (x.poll size failResets f).2).toNat := by
  have untouched : Loses x x.advanced 0 0 := ⟨(Nat.zero_add _).symm, (Nat.zero_add _).symm⟩
  rw [Outcome.countFirst rfl]
  unfold poll
  split
  · next kind failed =>
    rw [failed]
    exact ⟨0, untouched, rfl, rfl⟩
  · next works =>
    split
    · next unread =>
      rw [unreadPending unread works]
      exact ⟨0, untouched, rfl, rfl⟩
    · next r read =>
      obtain ⟨lost, opens⟩ := x.advanced.rearmLoses (f := f) failResets r
      rw [Outcome.readSucceeds read]
      exact ⟨_, ⟨lost.opens, lost.reads⟩, opens, rfl⟩

end Script

namespace Lane

variable {c : Surroundings} {f : Folder}

theorem attendLoses (opened : Bool) (x : Script) : ∃ reads,
    Script.Loses x (attend c f opened x).lane.script 0 reads ∧
      (attend c f opened x).lane.script.opens = x.opens ∧
      ∀ v, (attend c f opened x).result = .ok v →
        reads + (attend c f opened x).taken.countP Outcome.fails =
          (!(attend c f opened x).lane.watched).toNat := by
  obtain ⟨reads, lost, opens, count⟩ := x.pollLoses (f := f) c.size c.failResets
  have way := attended c f opened x
  generalize attend c f opened x = done at way ⊢
  cases way with
  | failed answer | unwound answer _ _ =>
    rw [answer] at lost opens
    exact ⟨reads, lost, opens, nofun⟩
  | waits answer =>
    rw [answer] at lost opens count
    exact ⟨reads, lost, opens, fun _ _ => count⟩
  | ended answer _ _ =>
    rw [answer] at lost opens count
    simp only [Bool.not_not]
    exact ⟨reads, lost, opens, fun _ _ => count⟩

/-- A visit to a folder without a session tries to open it. No visit that comes to its end meets two
failures, and none is met there that does not end the session. -/
theorem visitLoses (c : Surroundings) (f : Folder) (l : Lane) : ∃ opens reads,
    Script.Loses l.script (l.visit c f).lane.script opens reads ∧
      (l.visit c f).lane.script.opens + opens = l.script.opens + (!l.watched).toNat ∧
      ∀ v, (l.visit c f).result = .ok v →
        opens + reads + (l.visit c f).taken.countP Outcome.fails =
          (!(l.visit c f).lane.watched).toNat := by
  have way := visited c f l
  generalize l.visit c f = done at way ⊢
  cases way with
  | held watched =>
    obtain ⟨reads, lost, opens, count⟩ := attendLoses (c := c) (f := f) false l.script
    rw [watched]
    exact ⟨0, reads, lost, opens, (Nat.zero_add reads).symm ▸ count⟩
  | @started x unwatched answer =>
    obtain ⟨opens, reads, lost, tried, none⟩ := l.script.startLoses (f := f) c.failCompletions
    rw [answer] at lost tried none
    rw [unwatched]
    obtain ⟨later, lostLater, same, count⟩ := attendLoses (c := c) (f := f) true x
    simp only [Option.any_none, Bool.toNat_false] at none
    refine ⟨opens, reads + later, lost.trans lostLater, same ▸ tried, fun v ended => ?_⟩
    have counted := count v ended
    omega
  | refused unwatched answer spared | struck unwatched answer spared =>
    obtain ⟨opens, reads, lost, tried, count⟩ := l.script.startLoses (f := f) c.failCompletions
    rw [answer] at lost tried count
    rw [Option.any_some, spared] at count
    rw [unwatched]
    exact ⟨opens, reads, lost, tried, fun v ended => by cases ended <;> exact count⟩

end Lane

namespace Source

def Edit.openFailures (f : Folder) : Edit → Nat
  | .failOpens g n => if g = f then n else 0
  | _ => 0

def Edit.readFailures (f : Folder) : Edit → Nat
  | .failReads g n => if g = f then n else 0
  | _ => 0

variable {f : Folder}

theorem editOpenFailures (s : Source) (e : Edit) (f : Folder) :
    ((s.edit e).script f).openFailures = (s.script f).openFailures + e.openFailures f := by
  cases e with
  | failOpens g n =>
    by_cases here : g = f
    · subst here
      simp only [edit, scriptSet, Edit.openFailures, if_true]
    · simp only [edit, scriptSetOther _ _ (Ne.symm here), Edit.openFailures, here, if_false,
        Nat.add_zero]
  | push g o => exact s.setKeeps Script.openFailures f g _ rfl
  | failReads g n => exact s.setKeeps Script.openFailures f g _ rfl
  | failCompletions b => rfl
  | failResets b => rfl

theorem editReadFailures (s : Source) (e : Edit) (f : Folder) :
    ((s.edit e).script f).readFailures = (s.script f).readFailures + e.readFailures f := by
  cases e with
  | failReads g n =>
    by_cases here : g = f
    · subst here
      simp only [edit, scriptSet, Edit.readFailures, if_true]
    · simp only [edit, scriptSetOther _ _ (Ne.symm here), Edit.readFailures, here, if_false,
        Nat.add_zero]
  | push g o => exact s.setKeeps Script.readFailures f g _ rfl
  | failOpens g n => exact s.setKeeps Script.readFailures f g _ rfl
  | failCompletions b => rfl
  | failResets b => rfl

end Source

namespace Monitor

variable {isFolder : String → Bool} {m : Monitor} {f : Folder}

def scripted (count : Source.Edit → Nat) : List Act → Nat
  | [] => 0
  | .edit e :: acts => count e + scripted count acts
  | .tick :: acts => scripted count acts

/-- The failures of a folder met in the course of a history, and the outcomes taken: what is left of
those there and those laid down. -/
structure Met (f : Folder) (x y : Script) (acts : List Act) (opens reads : Nat)
    (popped : List Outcome) : Prop where
  opens : x.openFailures + scripted (·.openFailures f) acts = opens + y.openFailures
  reads : x.readFailures + scripted (·.readFailures f) acts = reads + y.readFailures
  outcomes : x.outcomes ++ laid f acts = popped ++ y.outcomes

def missed (isFolder : String → Bool) (f : Folder) (m : Monitor) (acts : List Act) : Nat :=
  (m.views isFolder f acts).countP (!·.lane.watched)

theorem tickMeets (sound : m.Sound) (inside : f ∈ m.folders)
    (healthy : (m.tick isFolder).2.cut = none) :
    let n := (m.tick isFolder).1
    ∃ opens reads popped, Met f (m.source.script f) (n.source.script f) [.tick] opens reads popped ∧
      (n.source.script f).opens + opens = (m.source.script f).opens + (!(m.lane f).watched).toNat ∧
      opens + reads + popped.countP Outcome.fails = (!(n.lane f).watched).toNat := by
  obtain ⟨v, -, -, ended, left⟩ := (tickSwept isFolder sound).comesTo healthy inside
  have takes := Lane.visitTakes (m.surroundings isFolder f) f (m.lane f)
  obtain ⟨opens, reads, lost, tried, count⟩ :=
    Lane.visitLoses (m.surroundings isFolder f) f (m.lane f)
  rw [← left] at takes lost tried count
  exact ⟨opens, reads, _, ⟨lost.opens, lost.reads, (List.append_nil _).trans takes⟩, tried,
    count v ended⟩

theorem Met.edited {e : Source.Edit} {y : Script} {acts : List Act} {opens reads : Nat}
    {popped : List Outcome}
    (met : Met f ((m.edit e).source.script f) y acts opens reads popped) :
    Met f (m.source.script f) y (.edit e :: acts) opens reads popped where
  opens := by
    have laidDown := m.source.editOpenFailures e f
    have later := met.opens
    simp only [edit, laidDown, scripted] at later ⊢
    omega
  reads := by
    have laidDown := m.source.editReadFailures e f
    have later := met.reads
    simp only [edit, laidDown, scripted] at later ⊢
    omega
  outcomes := (editLays m e f acts).symm.trans met.outcomes

theorem Met.ticked {x y z : Script} {acts : List Act} {opens reads laterOpens laterReads : Nat}
    {popped laterPopped : List Outcome} (now : Met f x y [.tick] opens reads popped)
    (later : Met f y z acts laterOpens laterReads laterPopped) :
    Met f x z (.tick :: acts) (opens + laterOpens) (reads + laterReads)
      (popped ++ laterPopped) where
  opens := by
    have first := now.opens
    have rest := later.opens
    simp only [scripted] at first ⊢
    omega
  reads := by
    have first := now.reads
    have rest := later.reads
    simp only [scripted] at first ⊢
    omega
  outcomes := by
    have first := now.outcomes
    simp only [laid, List.append_nil] at first ⊢
    rw [first, List.append_assoc, later.outcomes, List.append_assoc]

theorem historyMeets (sound : m.Sound) (inside : f ∈ m.folders) (acts : List Act)
    (healthy : ∀ t ∈ (m.history isFolder acts).2, t.cut = none) :
    ∃ opens reads popped, Met f (m.source.script f) ((m.history isFolder acts).1.source.script f)
        acts opens reads popped ∧
      missed isFolder f m acts = opens + reads + popped.countP Outcome.fails := by
  induction acts generalizing m with
  | nil => exact ⟨0, 0, [], ⟨(Nat.zero_add _).symm, (Nat.zero_add _).symm, List.append_nil _⟩, rfl⟩
  | cons act acts ih =>
    cases act with
    | edit e =>
      obtain ⟨opens, reads, popped, met, count⟩ := ih (sound.edited e) inside healthy
      exact ⟨opens, reads, popped, met.edited, count⟩
    | tick =>
      have swept := tickSwept isFolder sound
      obtain ⟨first, after⟩ := List.forall_mem_cons.mp healthy
      obtain ⟨opens, reads, popped, now, -, count⟩ := tickMeets sound inside first
      obtain ⟨laterOpens, laterReads, laterPopped, later, rest⟩ :=
        ih (swept.sound (Tick.returnsHealthy first)) (swept.frame.folders ▸ inside) after
      refine ⟨_, _, _, now.ticked later, ?_⟩
      simp only [missed, views, List.countP_cons, List.countP_append] at rest ⊢
      rw [rest]
      cases watched : ((m.tick isFolder).1.lane f).watched <;>
        simp only [watched, Bool.not_false, Bool.not_true, Bool.toNat_true, Bool.toNat_false,
          Bool.false_eq_true, if_true, if_false] at count ⊢ <;> omega

def Spent (x : Script) : Prop :=
  x.openFailures = 0 ∧ x.readFailures = 0 ∧ x.outcomes.countP Outcome.fails = 0

instance (x : Script) : Decidable (Spent x) := by unfold Spent; infer_instance

def Lenient (f : Folder) (acts : List Act) : Prop :=
  scripted (·.openFailures f) acts = 0 ∧ scripted (·.readFailures f) acts = 0 ∧
    (laid f acts).countP Outcome.fails = 0

theorem Met.spent {x y : Script} {acts : List Act} {opens reads : Nat} {popped : List Outcome}
    (met : Met f x y acts opens reads popped) (spent : Spent x) (lenient : Lenient f acts) :
    Spent y ∧ opens = 0 ∧ reads = 0 ∧ popped.countP Outcome.fails = 0 := by
  obtain ⟨opensLeft, readsLeft, outcomesLeft⟩ := spent
  obtain ⟨opensLate, readsLate, outcomesLate⟩ := lenient
  have opens := met.opens
  have reads := met.reads
  have outcomes := congrArg (List.countP Outcome.fails) met.outcomes
  rw [List.countP_append, List.countP_append] at outcomes
  refine ⟨⟨?_, ?_, ?_⟩, ?_, ?_, ?_⟩ <;> omega

theorem Sound.waits (sound : m.Sound) (watched : (m.lane f).watched = true) :
    ∃ s, Table.get? m.registry f = some s ∧ s.outstanding = true ∧ s.request.inFlight = true := by
  obtain ⟨s, here⟩ := Option.isSome_iff_exists.mp watched
  have armed := sound.armed f s (Table.memOfGet here)
  exact ⟨s, here, armed.waiting, armed.inFlight⟩

theorem spentWatched (sound : m.Sound) (inside : f ∈ m.folders) (spent : Spent (m.source.script f))
    {acts : List Act} (lenient : Lenient f acts)
    (healthy : ∀ t ∈ (m.history isFolder acts).2, t.cut = none)
    (last : ((m.history isFolder acts).1.tick isFolder).2.cut = none) :
    (((m.history isFolder acts).1.tick isFolder).1.lane f).watched = true := by
  obtain ⟨_, _, _, met, -⟩ := historyMeets sound inside acts healthy
  obtain ⟨soundAfter, folders⟩ := sound.lived fun t inside => Tick.returnsHealthy (healthy t inside)
  obtain ⟨opens, reads, popped, metLast, -, count⟩ :=
    tickMeets soundAfter (folders ▸ inside) last
  obtain ⟨-, noOpens, noReads, noResults⟩ := metLast.spent (met.spent spent lenient).1 ⟨rfl, rfl, rfl⟩
  rw [noOpens, noReads, noResults] at count
  cases watched : (((m.history isFolder acts).1.tick isFolder).1.lane f).watched with
  | true => rfl
  | false =>
    rw [watched] at count
    cases count

/-- Every failure scripted for a folder costs it one tick and no more. A folder without a session is
opened anew by every tick, and with its failures used up it is watched after each. -/
theorem eachFailureCostsOneTick {folders : List Folder} {settings : Settings}
    (made : create .fresh folders settings = .ok m) (listed : f ∈ folders)
    (isFolder : String → Bool) (acts : List Act)
    (healthy : ∀ t ∈ (m.history isFolder acts).2, t.cut = none) :
    let n := (m.history isFolder acts).1
    (∃ opens reads popped, Met f .blank (n.source.script f) acts opens reads popped ∧
      missed isFolder f m acts = opens + reads + popped.countP Outcome.fails) ∧
    ((n.tick isFolder).2.cut = none →
      let next := (n.tick isFolder).1
      ∃ opens reads popped,
        Met f (n.source.script f) (next.source.script f) [.tick] opens reads popped ∧
        opens + reads + popped.countP Outcome.fails =
          (if (Table.get? next.registry f).isSome then 0 else 1) ∧
        (next.source.script f).opens + opens =
          (n.source.script f).opens + if (Table.get? n.registry f).isSome then 0 else 1) ∧
    ∀ later, Spent (n.source.script f) → Lenient f later →
      (∀ t ∈ (n.history isFolder later).2, t.cut = none) →
      let last := (n.history isFolder later).1
      (last.tick isFolder).2.cut = none →
      ∃ s, Table.get? (last.tick isFolder).1.registry f = some s ∧
        s.outstanding = true ∧ s.request.inFlight = true := by
  intro n
  have sound := Sound.created made
  obtain ⟨-, -, watched, -, -⟩ := createInverse made
  have inside : f ∈ m.folders := watched ▸ (distinctMembers folders f).mpr listed
  obtain ⟨soundAfter, foldersAfter⟩ :=
    sound.lived fun t inside => Tick.returnsHealthy (healthy t inside)
  have insideAfter : f ∈ n.folders := foldersAfter ▸ inside
  have blank : m.source.script f = .blank := congrArg Lane.script (createdLane made f)
  have absence : ∀ k : Monitor, (!(k.lane f).watched).toNat =
      if (Table.get? k.registry f).isSome then 0 else 1 := by
    intro k
    simp only [lane]
    cases (Table.get? k.registry f).isSome <;> rfl
  refine ⟨blank ▸ historyMeets sound inside acts healthy, ?_, ?_⟩
  · intro ended
    obtain ⟨opens, reads, popped, met, tried, count⟩ := tickMeets soundAfter insideAfter ended
    rw [absence] at tried count
    exact ⟨opens, reads, popped, met, count, tried⟩
  · intro later spent lenient healthyLater last ended
    have again := spentWatched soundAfter insideAfter spent lenient healthyLater ended
    have soundLast : last.Sound :=
      (soundAfter.lived fun t inside => Tick.returnsHealthy (healthyLater t inside)).1
    exact (soundLast.ticked (Tick.returnsHealthy ended)).waits again

theorem everyKindOfFailurePaid :
    let d := Folder.ofText "d"
    let m : Monitor := ⟨.default, [d], .empty, [], .fresh, 0⟩
    let acts : List Act := [.edit (.failOpens d 2), .edit (.push d (.failure .timedOut)), .tick,
      .tick, .edit (.failReads d 1), .tick, .tick, .tick, .edit (.push d .overflow),
      .edit (.failReads d 1), .tick]
    let n := (m.history (fun _ => false) acts).1
    create .fresh [d] .default = .ok m ∧
      (∀ t ∈ (m.history (fun _ => false) acts).2, t.cut = none) ∧
      (∃ opens reads popped, Met d .blank (n.source.script d) acts opens reads popped ∧
        missed (fun _ => false) d m acts = opens + reads + popped.countP Outcome.fails) ∧
      missed (fun _ => false) d m acts = 5 ∧
      ∃ s, Table.get? (n.tick fun _ => false).1.registry d = some s ∧
        s.outstanding = true ∧ s.request.inFlight = true := by
  intro d m acts n
  have made : create .fresh [d] .default = .ok m := rfl
  have healthy : ∀ t ∈ (m.history (fun _ => false) acts).2, t.cut = none := by decide
  have spent : Spent (n.source.script d) := by decide
  have count : missed (fun _ => false) d m acts = 5 := by decide
  have last : (n.tick fun _ => false).2.cut = none := by decide
  obtain ⟨paid, -, later⟩ :=
    eachFailureCostsOneTick made List.mem_cons_self (fun _ => false) acts healthy
  have lenient : Lenient d [] := ⟨rfl, rfl, rfl⟩
  have again := later [] spent lenient
  simp only [history] at again
  refine ⟨made, healthy, paid, count, ?_⟩
  dsimp only [n] at last ⊢
  exact again (List.forall_mem_nil _) last

end Monitor
end FolderWatch
