import FolderWatch.Proofs.Exclude.Kept
import FolderWatch.Proofs.Monitor.Healing
import Mathlib.Algebra.BigOperators.Group.List.Basic

/-! The counters of a tick. Every visit adds its own share to them, and the shares of one visit balance
whatever it opened, found and evicted; so do the counters of a tick that came to its end. -/
namespace FolderWatch

namespace Outcome

def fills (size : Nat) : Outcome → Bool
  | .records bytes => 0 < bytes.length ∧ bytes.length ≤ size
  | _ => false

def misfits (size : Nat) : Outcome → Bool
  | .records bytes => bytes.length = 0 ∨ size < bytes.length
  | .nothing => true
  | _ => false

def overflows : Outcome → Bool
  | .overflow => true
  | _ => false

end Outcome

namespace TickStats

def plus (s t : TickStats) : TickStats where
  initialized := s.initialized + t.initialized
  initFailures := s.initFailures + t.initFailures
  pending := s.pending + t.pending
  delivered := s.delivered + t.delivered
  excluded := s.excluded + t.excluded
  overflows := s.overflows + t.overflows
  tooSmall := s.tooSmall + t.tooSmall
  evicted := s.evicted + t.evicted

def ofVisit (v : Visit) : TickStats := zero.add v

theorem addPlus (t : TickStats) (v : Visit) : t.add v = t.plus (ofVisit v) := by
  obtain ⟨f, opened, finding, evicted⟩ := v
  rcases finding with _ | finding
  · cases opened <;> cases evicted <;> rfl
  · cases finding <;> cases opened <;> cases evicted <;>
      simp [add, addOpened, addFinding, addEvicted, plus, ofVisit, zero]

theorem ofVisitParts (v : Visit) : ofVisit v =
    { zero.addFinding v.finding with
      initialized := v.opened.toNat
      evicted := v.evicted.toNat } := by
  obtain ⟨f, opened, finding, evicted⟩ := v
  rcases finding with _ | finding
  · cases opened <;> cases evicted <;> rfl
  · cases finding <;> cases opened <;> cases evicted <;> rfl

theorem plusAssoc (s t u : TickStats) : (s.plus t).plus u = s.plus (t.plus u) := by
  simp only [plus, Nat.add_assoc]

theorem ofVisitsCons (v : Visit) (vs : List Visit) :
    ofVisits (v :: vs) = (ofVisit v).plus (ofVisits vs) := by
  have later : ∀ t, vs.foldl add t = t.plus (ofVisits vs) := by
    induction vs with
    | nil => exact fun t => rfl
    | cons w vs ih =>
      intro t
      rw [ofVisits, List.foldl_cons, List.foldl_cons, ih, ih, addPlus t, plusAssoc]
      rfl
  exact later (ofVisit v)

theorem deliveredShare (v : Visit) : (ofVisit v).delivered = (v.batch?.getD []).length := by
  rw [ofVisitParts]
  cases found : v.finding with
  | none => simp only [Visit.batch?, found]; rfl
  | some finding =>
    cases finding with
    | changes es n => rw [v.handedChanges found]; exact Nat.zero_add _
    | _ => simp only [Visit.batch?, found]; rfl

end TickStats

def Surroundings.found (c : Surroundings) (f : Folder) : Outcome → Except Panic Finding
  | .pending => .ok .pending
  | o => c.finding (o.reading? c.size f)

theorem Script.pollPends {f : Folder} {x rest : Script} {size : Nat} {failResets : Bool} {p : Poll}
    (answer : x.poll size failResets f = (rest, .ok p)) :
    p.isPending = !(x.outcomes.headD .pending).endsRead := by
  unfold poll at answer
  split at answer
  · next kind head =>
    cases answer
    rw [head]
    rfl
  · next works =>
    split at answer
    · next unread =>
      cases answer
      rw [unreadPending unread works]
      rfl
    · next r read =>
      rw [readingEnds read, Poll.isPending, rearmReads answer]
      rfl

namespace Lane

variable {c : Surroundings} {f : Folder} {v : Visit}

theorem attendFinds {opened : Bool} {x : Script} (ended : (attend c f opened x).result = .ok v) :
    ∃ found, c.found f (x.outcomes.headD .pending) = .ok found ∧
      v = ⟨f, opened, some found, !(attend c f opened x).lane.watched⟩ := by
  have way := attended c f opened x
  generalize attend c f opened x = done at way ended ⊢
  cases way with
  | failed _ | unwound _ _ _ => cases ended
  | waits answer =>
    have pends := Script.pollPends answer
    cases ended
    cases next : x.outcomes.headD .pending with
    | pending => exact ⟨_, rfl, rfl⟩
    | _ =>
      rw [next] at pends
      cases pends
  | @ended rest p found answer finished finds =>
    have reads := Script.pollReads answer
    have pends := Script.pollPends answer
    cases ended
    rw [reads] at finds
    rw [Bool.not_not]
    cases next : x.outcomes.headD .pending with
    | pending =>
      rw [finished, next] at pends
      cases pends
    | _ =>
      rw [next] at finds
      exact ⟨found, finds, rfl⟩

theorem visitFinds {l : Lane} (ended : (l.visit c f).result = .ok v) :
    (v = ⟨f, false, none, false⟩ ∧ (l.visit c f).taken = [] ∧ l.watched = false ∧
      (l.visit c f).lane.watched = false) ∨
    ∃ found, c.found f (l.script.outcomes.headD .pending) = .ok found ∧
      v = ⟨f, !l.watched, some found, !(l.visit c f).lane.watched⟩ ∧
      (l.visit c f).taken = l.script.outcomes.take 1 := by
  have same := l.script.startOutcomes (f := f) c.failCompletions
  have way := visited c f l
  generalize l.visit c f = done at way ended ⊢
  cases way with
  | held watched =>
    obtain ⟨found, finds, told⟩ := attendFinds ended
    rw [watched]
    exact .inr ⟨found, finds, told, attendTaken false l.script⟩
  | @started x unwatched answer =>
    obtain ⟨found, finds, told⟩ := attendFinds ended
    rw [answer] at same
    rw [unwatched, ← same]
    exact .inr ⟨found, finds, told, attendTaken true x⟩
  | refused unwatched _ _ =>
    cases ended
    exact .inl ⟨rfl, rfl, unwatched, rfl⟩
  | struck _ _ _ => cases ended

/-- The shares of one visit in the counters, against whether its folder was watched before and
after and the outcome that it took. -/
structure Booked (size : Nat) (f : Folder) (before after : Bool) (popped : Option Outcome)
    (share : TickStats) : Prop where
  sessions : after.toNat + share.evicted = before.toNat + share.initialized
  present : after.toNat + share.initFailures + share.evicted = 1
  decoded : share.delivered + share.excluded = (popped.elim [] (·.decoded size f)).length
  overflows : share.overflows = (popped.any Outcome.overflows).toNat
  tooSmall : share.tooSmall = (popped.any (Outcome.misfits size)).toNat
  found : share.initFailures + share.pending + share.overflows + share.tooSmall +
    (popped.any (Outcome.fills size)).toNat + (popped.any Outcome.fails).toNat = 1

section Found

variable (fewer : ∀ {es kept : List Event}, c.keep es = .ok kept → kept.length ≤ es.length)
  {found : Finding}

include fewer

theorem foundShare {o : Outcome} (finds : c.found f o = .ok found) :
    let share := TickStats.zero.addFinding (some found)
    share.initFailures = 0 ∧ share.delivered + share.excluded = (o.decoded c.size f).length ∧
      share.overflows = o.overflows.toNat ∧ share.tooSmall = (o.misfits c.size).toNat ∧
      share.pending + share.overflows + share.tooSmall + (o.fills c.size).toNat +
        o.fails.toNat = 1 := by
  cases o with
  | records bytes =>
    by_cases ready : 0 < bytes.length ∧ bytes.length ≤ c.size
    · simp only [Surroundings.found, Outcome.reading?, ready, and_self, if_true] at finds
      obtain ⟨kept, left, rfl⟩ := Surroundings.changesKept finds
      have short := fewer left
      have fits : ¬ (bytes.length = 0 ∨ c.size < bytes.length) := by omega
      simp only [fits, ready, TickStats.addFinding, TickStats.zero, Outcome.decoded,
        Outcome.overflows, Outcome.misfits, Outcome.fills, Outcome.fails]
      simp
      omega
    · simp only [Surroundings.found, Outcome.reading?, ready, if_false] at finds
      cases finds
      have misfit : bytes.length = 0 ∨ c.size < bytes.length := by omega
      simp only [ready, misfit, TickStats.addFinding, TickStats.zero, Outcome.decoded,
        Outcome.overflows, Outcome.misfits, Outcome.fills, Outcome.fails]
      simp
  | _ =>
    cases finds
    exact ⟨rfl, rfl, rfl, rfl, rfl⟩

theorem foundBooks (before after : Bool) {popped : Option Outcome}
    (finds : c.found f (popped.getD .pending) = .ok found) :
    Booked c.size f before after popped (.ofVisit ⟨f, !before, some found, !after⟩) := by
  obtain ⟨opens, decoded, overflows, tooSmall, shares⟩ := foundShare fewer finds
  have any : ∀ p : Outcome → Bool, p .pending = false → popped.any p = p (popped.getD .pending) := by
    intro p idle
    cases popped with
    | none => exact idle.symm
    | some o => rfl
  rw [TickStats.ofVisitParts]
  constructor
  case sessions => cases before <;> cases after <;> rfl
  case present =>
    dsimp only
    rw [opens]
    cases after <;> rfl
  case decoded => cases popped <;> exact decoded
  case overflows => rw [any _ rfl]; exact overflows
  case tooSmall => rw [any _ rfl]; exact tooSmall
  case found =>
    dsimp only
    rw [any _ rfl, any _ rfl, opens, Nat.zero_add]
    exact shares

theorem visitBooks {l : Lane} (ended : (l.visit c f).result = .ok v) :
    Booked c.size f l.watched (l.visit c f).lane.watched (l.visit c f).taken.head? (.ofVisit v) := by
  rcases visitFinds ended with ⟨rfl, taken, before, after⟩ | ⟨found, finds, rfl, taken⟩
  · rw [taken, before, after]
    constructor <;> rfl
  · have head : (l.visit c f).taken.head?.getD .pending = l.script.outcomes.headD .pending := by
      rw [taken]
      cases l.script.outcomes <;> rfl
    rw [← head] at finds
    exact foundBooks fewer _ _ finds

end Found

theorem visitTakesOne (c : Surroundings) (f : Folder) (l : Lane) :
    (l.visit c f).taken = (l.visit c f).taken.head?.toList := by
  have one : ∀ opened x, (attend c f opened x).taken = (attend c f opened x).taken.head?.toList := by
    intro opened x
    rw [attendTaken]
    cases x.outcomes <;> rfl
  have way := visited c f l
  generalize l.visit c f = done at way ⊢
  cases way with
  | held _ | started _ _ => exact one _ _
  | refused _ _ _ | struck _ _ _ => rfl

end Lane

/-- The counters of visits to some folders, against who was watched before and after and what was
taken for whom. -/
structure Balance (size : Nat) (fs : List Folder) (before after : Folder → Bool)
    (popped : Folder → Option Outcome) (stats : TickStats) : Prop where
  sessions : fs.countP after + stats.evicted = fs.countP before + stats.initialized
  present : fs.countP after + stats.initFailures + stats.evicted = fs.length
  decoded : stats.delivered + stats.excluded =
    (fs.flatMap fun f => (popped f).elim [] (·.decoded size f)).length
  overflows : stats.overflows = fs.countP fun f => (popped f).any Outcome.overflows
  tooSmall : stats.tooSmall = fs.countP fun f => (popped f).any (Outcome.misfits size)
  found : stats.initFailures + stats.pending + stats.overflows + stats.tooSmall +
    (fs.countP fun f => (popped f).any (Outcome.fills size)) +
    (fs.countP fun f => (popped f).any Outcome.fails) = fs.length

section Balance

variable {size : Nat} {fs : List Folder} {before after : Folder → Bool}
  {popped : Folder → Option Outcome}

theorem Balance.none : Balance size [] before after popped .zero :=
  ⟨rfl, rfl, rfl, rfl, rfl, rfl⟩

theorem countFrom (p : Folder → Bool) (f : Folder) (fs : List Folder) :
    (f :: fs).countP p = (p f).toNat + fs.countP p := by
  rw [List.countP_cons, Nat.add_comm]
  cases p f <;> rfl

theorem Balance.cons {f : Folder} {share stats : TickStats}
    (booked : Lane.Booked size f (before f) (after f) (popped f) share)
    (rest : Balance size fs before after popped stats) :
    Balance size (f :: fs) before after popped (share.plus stats) := by
  obtain ⟨sessions, present, decoded, overflows, tooSmall, found⟩ := booked
  obtain ⟨sessions', present', decoded', overflows', tooSmall', found'⟩ := rest
  constructor <;>
    simp only [countFrom, List.flatMap_cons, List.length_append, List.length_cons,
      TickStats.plus] <;> omega

theorem balanceOfVisits (vs : List Visit) (books : ∀ v ∈ vs, Lane.Booked size v.folder
      (before v.folder) (after v.folder) (popped v.folder) (.ofVisit v)) :
    Balance size (vs.map Visit.folder) before after popped (.ofVisits vs) := by
  induction vs with
  | nil => exact .none
  | cons v vs ih =>
    rw [TickStats.ofVisitsCons]
    exact .cons (books v List.mem_cons_self)
      (ih fun w inside => books w (List.mem_cons_of_mem _ inside))

end Balance

namespace Tick

theorem handsOn (t : Tick) :
    (TickStats.ofVisits t.visits).delivered = t.batches.flatten.length := by
  rw [batches]
  induction t.visits with
  | nil => rfl
  | cons v vs ih =>
    have share := TickStats.deliveredShare v
    rw [TickStats.ofVisitsCons, List.filterMap_cons]
    simp only [TickStats.plus, share, ih]
    cases v.batch? with
    | none => exact Nat.zero_add _
    | some es => exact List.length_append.symm

end Tick

namespace Monitor

variable {isFolder : String → Bool} {m : Monitor} {stats : TickStats}

def popped (isFolder : String → Bool) (m : Monitor) (f : Folder) : Option Outcome :=
  ((m.lane f).visit (m.surroundings isFolder f) f).taken.head?

theorem Sound.registered (sound : m.Sound) :
    m.folders.countP (fun f => (m.lane f).watched) = m.registry.length := by
  have counted : ∀ fs : List Folder, fs.countP (fun f => (m.lane f).watched) =
      (fs.map fun f => (m.lane f).watched.toNat).sum := by
    intro fs
    induction fs with
    | nil => rfl
    | cons f fs ih => rw [countFrom, ih, List.map_cons, List.sum_cons]
  rw [counted, ← List.sum_toFinset _ sound.once, sound.watchedSum]

theorem tickBalances (sound : m.Sound) (healthy : (m.tick isFolder).2.cut = none) :
    Balance m.settings.bufferBytes m.folders (fun f => (m.lane f).watched)
      (fun f => ((m.tick isFolder).1.lane f).watched) (popped isFolder m)
      (.ofVisits (m.tick isFolder).2.visits) := by
  have swept := tickSwept isFolder sound
  have whole := (healthy ▸ swept.halt).whole
  rw [← whole]
  apply balanceOfVisits
  intro v inside
  obtain ⟨ended, left⟩ := swept.visited v inside
  rw [left]
  exact Lane.visitBooks Exclude.Filter.keepShorter ended

/-- The counters of a tick that came to its end are a balance of sessions, of events and of what
its visits came to. -/
theorem tickCountersBalance (reached : Reachable m) (isFolder : String → Bool)
    (ended : (m.tick isFolder).2.stats = .ok stats) :
    let n := (m.tick isFolder).1
    let size := m.settings.bufferBytes
    ∃ popped : Folder → Option Outcome,
      (∀ f ∈ m.folders,
        (m.source.script f).outcomes = (popped f).toList ++ (n.source.script f).outcomes) ∧
      n.registry.length + stats.evicted = m.registry.length + stats.initialized ∧
      m.folders.length = n.registry.length + stats.initFailures + stats.evicted ∧
      stats.delivered = (m.tick isFolder).2.batches.flatten.length ∧
      stats.delivered + stats.excluded =
        (m.folders.flatMap fun f => (popped f).elim [] (·.decoded size f)).length ∧
      stats.overflows = (m.folders.countP fun f => (popped f).any Outcome.overflows) ∧
      stats.tooSmall = (m.folders.countP fun f => (popped f).any (Outcome.misfits size)) ∧
      m.folders.length =
        stats.initFailures + stats.pending + stats.overflows + stats.tooSmall +
          (m.folders.countP fun f => (popped f).any (Outcome.fills size)) +
          m.folders.countP fun f => (popped f).any Outcome.fails := by
  intro n size
  have sound := reached.sound
  obtain ⟨healthy, rfl⟩ := Tick.endedStats ended
  have swept := tickSwept isFolder sound
  have balance := tickBalances sound healthy
  have before := sound.registered
  have after := (swept.sound (Tick.returnsHealthy healthy)).registered
  rw [swept.frame.folders] at after
  have sessions := balance.sessions
  have present := balance.present
  rw [after] at sessions present
  rw [before] at sessions
  refine ⟨popped isFolder m, ?_, sessions, present.symm, Tick.handsOn _, balance.decoded,
    balance.overflows, balance.tooSmall, balance.found.symm⟩
  intro f inside
  obtain ⟨v, -, -, -, left⟩ := swept.comesTo healthy inside
  have takes := Lane.visitTakes (m.surroundings isFolder f) f (m.lane f)
  rw [← left, Lane.visitTakesOne] at takes
  exact takes

theorem balanceOfEveryFinding :
    let settings := { Settings.default with exclude := ["y"] }
    let fs := ["a", "b", "c", "d", "e", "f"].map Folder.ofText
    let a := Folder.ofText "a"
    let b := Folder.ofText "b"
    let c := Folder.ofText "c"
    let d := Folder.ofText "d"
    let e := Folder.ofText "e"
    let records := ((Draft.push .empty 1 "x").push 1 "y").finish.1
    let line : Exclude.Rule := ⟨.leading :: "y".toList.map .literal, false, false⟩
    let made : Monitor := ⟨settings, fs, ⟨fs, [line], false⟩, [], .fresh, 0⟩
    let m := (made.history (fun _ => false) [.edit (.failOpens a 2), .tick,
      .edit (.push b (.records records)), .edit (.failReads b 1), .edit (.push c .overflow),
      .edit (.push d (.failure .timedOut)), .edit (.push e .nothing)]).1
    let n := (m.tick fun _ => false).1
    Reachable m ∧ (m.tick fun _ => false).2.stats = .ok ⟨0, 1, 1, 1, 1, 1, 1, 2⟩ ∧
      n.registry.length + 2 = m.registry.length ∧ m.folders.length = n.registry.length + 1 + 2 ∧
      1 = (m.tick fun _ => false).2.batches.flatten.length := by
  intro settings fs a b c d e records line made m n
  have created : create .fresh fs settings = .ok made := by
    dsimp only [made, line, settings, fs]
    rfl
  have reached : Reachable m := (Reachable.created created).lived (by decide +kernel)
  have ended : (m.tick fun _ => false).2.stats = .ok ⟨0, 1, 1, 1, 1, 1, 1, 2⟩ := by decide +kernel
  obtain ⟨popped, -, sessions, present, handed, -⟩ := tickCountersBalance reached _ ended
  exact ⟨reached, ended, sessions, present, handed⟩

end Monitor
end FolderWatch
