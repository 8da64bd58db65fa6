import FolderWatch.Proofs.Monitor.Delivery
import Mathlib.Algebra.BigOperators.Group.Finset.Piecewise

/-! Accounts of reads, over lives in which ticks may fail but come back. A read is counted when it is
issued, an outcome when it is taken, and a call-back when a session that waits is released; what
was issued for a folder is what ended there and what is still under way. -/
namespace FolderWatch

namespace Outcome

def endsRead : Outcome → Bool
  | .pending => false
  | _ => true

def wantsReset : Outcome → Bool
  | .pending | .failure _ => false
  | _ => true

theorem countFirst {p : Outcome → Bool} (idle : p .pending = false) (outcomes : List Outcome) :
    (outcomes.take 1).countP p = (p (outcomes.headD .pending)).toNat := by
  cases outcomes with
  | nil =>
    rw [List.headD_nil, idle]
    rfl
  | cons o rest =>
    rw [List.take_succ_cons, List.take_zero, List.headD_cons, List.countP_singleton]
    cases p o <;> rfl

theorem fillRecords (b : Buffer) (bytes : List UInt8) :
    ∃ n filled, Outcome.fill b (.records bytes) = (.ready n, filled) := by
  unfold fill
  dsimp only
  split <;> exact ⟨_, _, rfl⟩

end Outcome

namespace Script

variable {f : Folder}

theorem issueCounts (x : Script) :
    (x.issue f).1.reads = x.reads + (x.issue f).2.isNone.toNat := by
  unfold issue
  split <;> rfl

theorem startCounts (x : Script) (failCompletions : Bool) :
    (x.start failCompletions f).1.reads =
      x.reads + (x.start failCompletions f).2.isNone.toNat := by
  unfold start
  split
  · rfl
  · split
    · rfl
    · exact issueCounts x.opened

theorem rearmCounts (x : Script) (failResets : Bool) (r : Reading) :
    (x.rearm failResets f r).1.reads =
      x.reads + (!Poll.ends (x.rearm failResets f r).2).toNat := by
  have issued := x.issueCounts (f := f)
  unfold rearm
  split
  · rfl
  · dsimp only [Poll.ends, Poll.mustEvict]
    rw [issued, Option.not_isSome]

theorem readingEnds {size : Nat} {o : Outcome} {r : Reading} (read : o.reading? size f = some r) :
    o.endsRead = true := by
  cases o with
  | pending => cases read
  | _ => rfl

theorem unreadPending {size : Nat} {o : Outcome} (unread : o.reading? size f = none)
    (works : ∀ kind, o ≠ .failure kind) : o = .pending := by
  cases o with
  | pending => rfl
  | records bytes =>
    unfold Outcome.reading? at unread
    dsimp only at unread
    split at unread <;> cases unread
  | nothing => cases unread
  | overflow => cases unread
  | failure kind => exact absurd rfl (works kind)

theorem pollCounts (x : Script) (size : Nat) (failResets : Bool) :
    (x.poll size failResets f).1.reads + 1 =
      x.reads + (x.outcomes.take 1).countP Outcome.endsRead +
        (!Poll.ends (x.poll size failResets f).2).toNat := by
  rw [Outcome.countFirst rfl]
  unfold poll
  split
  · next kind failed =>
    rw [failed]
    rfl
  · next works =>
    split
    · next unread =>
      rw [unreadPending unread works]
      rfl
    · next r read =>
      have rearmed := x.advanced.rearmCounts (f := f) failResets r
      rw [readingEnds read, rearmed, Bool.toNat_true]
      simp only [advanced]
      omega

end Script

namespace Lane

variable {c : Surroundings} {f : Folder}

theorem attendCounts {opened : Bool} {x : Script}
    (returned : ∀ cut, (attend c f opened x).result = .error cut → cut.returns = true) :
    (attend c f opened x).lane.script.reads + 1 =
      x.reads + (attend c f opened x).taken.countP Outcome.endsRead +
        (attend c f opened x).lane.watched.toNat := by
  have counts := x.pollCounts (f := f) c.size c.failResets
  have way := attended c f opened x
  generalize attend c f opened x = done at way returned ⊢
  cases way with
  | failed answer | waits answer | ended answer _ _ =>
    rw [answer] at counts
    exact counts
  -- The session stays, whether its next read was issued or not.
  | unwound _ _ _ => cases returned _ rfl

theorem visitCounts {c : Surroundings} {f : Folder} {l : Lane}
    (returned : ∀ cut, (l.visit c f).result = .error cut → cut.returns = true) :
    (l.visit c f).lane.script.reads + l.watched.toNat =
      l.script.reads + (l.visit c f).taken.countP Outcome.endsRead +
        (l.visit c f).lane.watched.toNat := by
  have started := l.script.startCounts (f := f) c.failCompletions
  have way := visited c f l
  generalize l.visit c f = done at way returned ⊢
  cases way with
  | held watched =>
    rw [watched]
    exact attendCounts returned
  | @started x unwatched answer =>
    rw [answer] at started
    rw [unwatched]
    have counts := attendCounts returned
    simp only [Option.isNone_none, Bool.toNat_true, Bool.toNat_false] at started ⊢
    omega
  | refused unwatched answer _ | struck unwatched answer _ =>
    rw [answer] at started
    rw [unwatched]
    exact started

end Lane

namespace Session

variable {source : Source} {size : Nat} {s : Session}

theorem issueResets (s : Session) (source : Source) :
    (s.issue source).source.resets = source.resets := by
  obtain ⟨-, -, same⟩ := source.issueSame s.dir s.request
  unfold issue
  split <;> (next answer => rw [answer] at same; exact same)

theorem rearmResets (s : Session) (source : Source) (reading : Reading) (log : List Message) :
    (s.rearm source reading log).source.resets = source.resets + 1 := by
  have counted : source.reset.2.resets = source.resets + 1 := rfl
  unfold rearm
  split
  · next answer =>
    rw [answer] at counted
    exact counted
  · next after answer =>
    rw [answer] at counted
    have issued := (s.issueResets after).trans counted
    dsimp only
    split <;> exact issued

theorem releaseResets (s : Session) (source : Source) :
    (s.release source).source.resets = source.resets := by
  unfold release Source.cancel Source.close
  dsimp only
  split
  · split <;> rfl
  · rfl

theorem pollResets (armed : s.Armed source size) :
    (s.poll source).source.resets = source.resets +
      ((source.script s.folder).outcomes.take 1).countP Outcome.wantsReset := by
  obtain ⟨t, popped, -, -, resets⟩ := source.popHead s.folder
  rw [Outcome.countFirst rfl, ← resets]
  simp only [poll, armed.waiting, Bool.not_true, Source.noteNothing, Source.check, armed.known,
    popped]
  cases (source.script s.folder).outcomes.headD .pending with
  | pending => rfl
  | failure kind => rfl
  | overflow => exact rearmResets _ _ _ _
  | nothing => exact rearmResets _ _ _ _
  | records bytes =>
    obtain ⟨n, filled, answer⟩ := Outcome.fillRecords s.buffer bytes
    simp only [answer]
    cases n <;> exact rearmResets _ _ _ _

end Session

theorem Source.editReads (s : Source) (e : Edit) (f : Folder) :
    ((s.edit e).script f).reads = (s.script f).reads := by
  cases e with
  | push g o => exact s.setKeeps Script.reads f g _ rfl
  | failOpens g n => exact s.setKeeps Script.reads f g _ rfl
  | failReads g n => exact s.setKeeps Script.reads f g _ rfl
  | failCompletions b => rfl
  | failResets b => rfl

namespace Monitor

variable {isFolder : String → Bool} {m n o : Monitor} {f : Folder} {s : Session}

theorem attendResets (isFolder : String → Bool) (opened : Bool) {size : Nat}
    (armed : s.Armed m.source size) :
    (m.attend isFolder f opened s).1.source.resets = m.source.resets +
      ((m.source.script s.folder).outcomes.take 1).countP Outcome.wantsReset := by
  have polled := Session.pollResets armed
  unfold attend
  dsimp only
  split
  · exact (Session.releaseResets _ _).trans polled
  · split
    · exact polled
    · split
      · exact polled
      · split
        · exact (Session.releaseResets _ _).trans polled
        · exact polled

theorem visitResets (isFolder : String → Bool) (sound : m.Sound) (f : Folder) :
    (m.visit isFolder f).1.source.resets = m.source.resets +
      ((m.lane f).visit (m.surroundings isFolder f) f).taken.countP Outcome.wantsReset := by
  have way := visitWent isFolder sound f
  generalize (m.lane f).visit (m.surroundings isFolder f) f = account at way ⊢
  generalize m.visit isFolder f = done at way ⊢
  cases way with
  | held here =>
    have inside := Table.memOfGet here
    have attended := attendResets isFolder (f := f) false (sound.armed f _ inside)
    rw [sound.own f _ inside] at attended
    rw [Lane.attendTaken]
    exact attended
  | refused _ _ _ begun _ | struck _ _ _ begun _ => exact begun.resets
  | @started s x source log _ _ _ begun done looked =>
    obtain ⟨-, script, resets, -, -, opened⟩ := begun
    obtain ⟨_, same, own, armed, -⟩ := opened rfl
    cases same
    have attended := attendResets (f := f)
      (m := { m with registry := m.registry.insert s, source := source }) isFolder true armed
    rw [looked, own, script, resets] at attended
    rw [Lane.attendTaken]
    exact attended

/-- Everything between two states of a monitor that a folder's account shows: what was laid down
and what was taken, folder by folder. -/
structure Accounts (m n : Monitor) (laidDown popped : Folder → List Outcome) : Prop where
  folders : n.folders = m.folders
  queues : ∀ f, (m.source.script f).outcomes ++ laidDown f =
    popped f ++ (n.source.script f).outcomes
  reads : ∀ f, (n.source.script f).reads + (m.lane f).watched.toNat =
    (m.source.script f).reads + (popped f).countP Outcome.endsRead + (n.lane f).watched.toNat
  resets : n.source.resets = m.source.resets +
    ∑ f ∈ m.folders.toFinset, (popped f).countP Outcome.wantsReset
  cancels : n.source.cancels = m.source.cancels
  others : ∀ f, f ∉ m.folders → popped f = []

def nothing (_ : Folder) : List Outcome := []

theorem Accounts.refl (m : Monitor) : Accounts m m nothing nothing where
  folders := rfl
  queues f := List.append_nil _
  reads f := rfl
  resets := by simp only [nothing, List.countP_nil, Finset.sum_const_zero, Nat.add_zero]
  cancels := rfl
  others f _ := rfl

theorem Accounts.trans {early late taken left : Folder → List Outcome}
    (first : Accounts m n early taken) (second : Accounts n o late left) :
    Accounts m o (fun f => early f ++ late f) (fun f => taken f ++ left f) where
  folders := second.folders.trans first.folders
  queues f := by
    rw [← List.append_assoc, first.queues, List.append_assoc, second.queues, List.append_assoc]
  reads f := by
    have before := first.reads f
    have after := second.reads f
    rw [List.countP_append]
    omega
  resets := by
    have after := second.resets
    rw [first.folders] at after
    simp only [List.countP_append, Finset.sum_add_distrib, after, first.resets, Nat.add_assoc]
  cancels := second.cancels.trans first.cancels
  others f outside := by
    rw [first.others f outside, second.others f (first.folders ▸ outside), List.append_nil]

theorem visitAccounts (isFolder : String → Bool) (sound : m.Sound) (inside : f ∈ m.folders)
    (returned : ∀ cut, (m.visit isFolder f).2.1 = .error cut → cut.returns = true) :
    Accounts m (m.visit isFolder f).1 nothing fun g =>
      if g = f then ((m.lane f).visit (m.surroundings isFolder f) f).taken else [] := by
  have turn := visitProper isFolder sound inside
  have counted := visitResets isFolder sound f
  have takes := Lane.visitTakes (m.surroundings isFolder f) f (m.lane f)
  have counts := Lane.visitCounts (turn.result ▸ returned)
  rw [← turn.lane] at takes counts
  constructor
  case folders => exact turn.frame.folders
  case queues =>
    intro g
    by_cases here : g = f
    · rw [if_pos here, here, nothing, List.append_nil]
      exact takes
    · have same := congrArg (·.script.outcomes) (turn.others g here)
      rw [if_neg here, nothing, List.append_nil]
      exact same.symm
  case reads =>
    intro g
    by_cases here : g = f
    · rw [if_pos here, here]
      exact counts
    · have same := congrArg (·.script.reads) (turn.others g here)
      rw [if_neg here, turn.others g here]
      exact congrArg (· + _) same
  case resets =>
    rw [counted]
    congr 1
    rw [Finset.sum_eq_single_of_mem f (List.mem_toFinset.mpr inside)]
    · rw [if_pos rfl]
    · intro g _ other
      rw [if_neg other, List.countP_nil]
  case cancels => exact turn.frame.cancels
  case others =>
    intro g outside
    have other : g ≠ f := fun same => outside (same ▸ inside)
    exact if_neg other

theorem sweepAccounts {fs : List Folder} (sound : m.Sound) (inside : ∀ f ∈ fs, f ∈ m.folders)
    (returned : (m.visitAll isFolder fs).2.returns = true) :
    ∃ popped, Accounts m (m.visitAll isFolder fs).1 nothing popped := by
  induction fs generalizing m with
  | nil => exact ⟨nothing, Accounts.refl m⟩
  | cons f fs ih =>
    have turn := visitProper isFolder sound (inside f List.mem_cons_self)
    have accounts := visitAccounts isFolder sound (inside f List.mem_cons_self)
    simp only [visitAll] at returned ⊢
    generalize m.visit isFolder f = done at turn accounts returned ⊢
    obtain ⟨n, result, log⟩ := done
    cases result with
    | error cut =>
      obtain ⟨e, rfl⟩ := Tick.cutReturns returned rfl
      exact ⟨_, accounts fun cut same => by cases same; rfl⟩
    | ok v =>
      obtain ⟨popped, rest⟩ := ih (turn.sound (okReturns v))
        (fun g later => turn.frame.folders ▸ inside g (List.mem_cons_of_mem _ later)) returned
      exact ⟨_, (accounts (okReturns v)).trans rest⟩

theorem Accounts.edited {e : Source.Edit} {acts : List Act} {popped : Folder → List Outcome}
    (later : Accounts (m.edit e) n (laid · acts) popped) :
    Accounts m n (laid · (.edit e :: acts)) popped where
  folders := later.folders
  queues f := (editLays m e f acts).symm.trans (later.queues f)
  reads f := by
    have same : ((m.edit e).source.script f).reads = (m.source.script f).reads :=
      m.source.editReads e f
    exact same ▸ later.reads f
  resets := by
    have same : (m.edit e).source.resets = m.source.resets := by cases e <;> rfl
    exact same ▸ later.resets
  cancels := later.cancels.trans (m.source.editSame e).2.2.2.1
  others := later.others

theorem historyAccounts {acts : List Act} (sound : m.Sound)
    (returned : ∀ t ∈ (m.history isFolder acts).2, t.returns = true) :
    ∃ popped, Accounts m (m.history isFolder acts).1 (laid · acts) popped := by
  induction acts generalizing m with
  | nil => exact ⟨nothing, Accounts.refl m⟩
  | cons act acts ih =>
    cases act with
    | edit e =>
      obtain ⟨popped, later⟩ := ih (sound.edited e) returned
      exact ⟨popped, later.edited⟩
    | tick =>
      obtain ⟨now, after⟩ := List.forall_mem_cons.mp returned
      obtain ⟨taken, first⟩ := sweepAccounts sound (fun _ inside => inside) now
      obtain ⟨left, later⟩ := ih (sound.ticked now) after
      exact ⟨_, first.trans later⟩

theorem Sound.watchedSum (sound : m.Sound) :
    ∑ f ∈ m.folders.toFinset, (m.lane f).watched.toNat = m.registry.length := by
  have present : ∀ f, (m.lane f).watched.toNat = if f ∈ m.registry.keys then 1 else 0 := by
    intro f
    cases found : Table.get? m.registry f with
    | none => simp only [lane, found, Option.isSome_none, Table.absent.mp found]; rfl
    | some s =>
      have inside := Table.keyOfMem (Table.memOfGet found)
      simp only [lane, found, Option.isSome_some, inside]
      rfl
  have filtered : {f ∈ m.folders.toFinset | f ∈ m.registry.keys} = m.registry.keys.toFinset := by
    ext f
    simp only [Finset.mem_filter, List.mem_toFinset]
    exact ⟨And.right, fun inside => ⟨sound.watched f inside, inside⟩⟩
  rw [Finset.sum_congr rfl fun f _ => present f, ← Finset.card_filter, filtered,
    List.toFinset_card_of_nodup sound.single, Table.keys, List.length_map]

theorem Sound.clearedReads (sound : m.Sound) :
    (∀ f, m.clear.1.source.script f = m.source.script f) ∧
      m.clear.1.source.cancels =
        m.source.cancels + ∑ f ∈ m.folders.toFinset, (m.lane f).watched.toNat := by
  rw [sound.watchedSum, sound.clearSource]
  exact ⟨fun f => rfl, rfl⟩

theorem createdLane {folders : List Folder} {settings : Settings}
    (made : create .fresh folders settings = .ok m) (f : Folder) : m.lane f = ⟨.blank, false⟩ := by
  obtain ⟨-, -, -, empty, fresh⟩ := createInverse made
  simp only [lane, empty, fresh, Table.getNil, Option.isSome_none]
  rfl

theorem Accounts.issued {folders : List Folder} {settings : Settings}
    {laidDown popped : Folder → List Outcome} (accounts : Accounts m n laidDown popped)
    (made : create .fresh folders settings = .ok m) (f : Folder) :
    laidDown f = popped f ++ (n.source.script f).outcomes ∧
      (n.source.script f).reads =
        (popped f).countP Outcome.endsRead + (n.lane f).watched.toNat := by
  have lane := createdLane made f
  have blank : m.source.script f = .blank := congrArg Lane.script lane
  have queue := accounts.queues f
  have reads := accounts.reads f
  rw [blank] at queue reads
  rw [lane] at reads
  simp only [Script.blank, Bool.toNat_false, Nat.add_zero, Nat.zero_add] at reads
  exact ⟨queue, reads⟩

theorem everyReadEndsOnce {folders : List Folder} {settings : Settings}
    (made : create .fresh folders settings = .ok m) (isFolder : String → Bool) (acts : List Act)
    (returned : ∀ t ∈ (m.history isFolder acts).2, t.returns = true) :
    let n := (m.history isFolder acts).1
    ∃ popped : Folder → List Outcome,
      (∀ f, laid f acts = popped f ++ (n.source.script f).outcomes) ∧
      (∀ f, f ∉ folders → popped f = [] ∧ (n.source.script f).reads = 0) ∧
      (∀ f, (n.source.script f).reads = (popped f).countP Outcome.endsRead +
        if (Table.get? n.registry f).isSome then 1 else 0) ∧
      n.source.resets = ∑ f ∈ folders.toFinset, (popped f).countP Outcome.wantsReset ∧
      ∑ f ∈ folders.toFinset, (n.clear.1.source.script f).reads =
        ∑ f ∈ folders.toFinset, (popped f).countP Outcome.endsRead + n.clear.1.source.cancels := by
  intro n
  have after : n.Sound := ((Reachable.created made).lived returned).sound
  obtain ⟨-, -, watched, -, fresh⟩ := createInverse made
  obtain ⟨popped, accounts⟩ := historyAccounts (Sound.created made) returned
  have issued := accounts.issued made
  have members : ∀ f, f ∈ n.folders ↔ f ∈ folders := by
    intro f
    rw [accounts.folders, watched, distinctMembers]
  have all : n.folders.toFinset = folders.toFinset := by
    ext f
    rw [List.mem_toFinset, List.mem_toFinset, members]
  refine ⟨popped, fun f => (issued f).1, ?_, ?_, ?_, ?_⟩
  · intro f unlisted
    have outside : f ∉ n.folders := fun inside => unlisted ((members f).mp inside)
    have none := accounts.others f (accounts.folders ▸ outside)
    have missing : Table.get? n.registry f = .none :=
      Table.absent.mpr fun inside => outside (after.watched f inside)
    refine ⟨none, ?_⟩
    rw [(issued f).2, none, lane, missing]
    rfl
  · intro f
    rw [(issued f).2, lane]
    cases (Table.get? n.registry f).isSome <;> rfl
  · have resets := accounts.resets
    rw [← accounts.folders, all, fresh] at resets
    exact resets.trans (Nat.zero_add _)
  · obtain ⟨same, cancels⟩ := after.clearedReads
    have before : n.source.cancels = 0 := by
      rw [accounts.cancels, fresh]
      rfl
    rw [cancels, before, Nat.zero_add, all, ← Finset.sum_add_distrib]
    exact Finset.sum_congr rfl fun f _ => by rw [same, (issued f).2]

theorem everyReadEndsOnceAfterFaults :
    let d := Folder.ofText "d"
    let e := Folder.ofText "e"
    let m : Monitor := ⟨.default, [d, e], .empty, [], .fresh, 0⟩
    let acts : List Act := [.edit (.push d .overflow), .edit (.push d .pending), .tick,
      .edit (.push e (.failure .timedOut)), .tick, .edit (.failReads e 1), .tick,
      .edit (.push d .nothing), .edit (.failResets true), .tick, .edit (.failResets false), .tick]
    let n := (m.history (fun _ => false) acts).1
    create .fresh [d, e, d] .default = .ok m ∧
      (∃ popped : Folder → List Outcome,
        laid d acts = popped d ++ (n.source.script d).outcomes ∧
        (n.source.script d).reads = (popped d).countP Outcome.endsRead + 1) ∧
      (n.source.script d).reads = 3 ∧ n.clear.1.source.cancels = 2 := by
  intro d e m acts n
  have made : create .fresh [d, e, d] .default = .ok m := rfl
  have returned : ∀ t ∈ (m.history (fun _ => false) acts).2, t.returns = true := by decide
  obtain ⟨popped, queues, -, reads, -⟩ := everyReadEndsOnce made (fun _ => false) acts returned
  have watched : (Table.get? n.registry d).isSome = true := by decide
  have issued := reads d
  rw [if_pos watched] at issued
  exact ⟨made, ⟨popped, queues d, issued⟩, by decide, by decide⟩

end Monitor
end FolderWatch
