import FolderWatch.Proofs.Monitor.Tick
import Mathlib.Data.List.Basic

/-! What a visit takes from a script and what a tick hands on for a folder. The events come from
the bytes of the outcome taken, whatever the buffer held before. -/
namespace FolderWatch

def Outcome.decoded (size : Nat) (f : Folder) : Outcome → List Event
  | .records bytes =>
      if 0 < bytes.length ∧ bytes.length ≤ size then (Chain.read bytes).events f else []
  | _ => []

def Reading.events : Option Reading → List Event
  | some (.changes es) => es
  | _ => []

theorem Outcome.decodedRead (size : Nat) (f : Folder) (o : Outcome) :
    o.decoded size f = Reading.events (o.reading? size f) := by
  cases o with
  | records bytes =>
    simp only [decoded, reading?]
    split <;> rfl
  | _ => rfl

theorem Visit.handedChanges (v : Visit) {es : List Event} {n : Nat}
    (found : v.finding = some (.changes es n)) : v.batch?.getD [] = es := by
  cases es <;> simp only [batch?, found, Option.getD_some, Option.getD_none]

namespace Script

variable {f : Folder}

theorem issueOutcomes (x : Script) : (x.issue f).1.outcomes = x.outcomes := by
  unfold issue
  split <;> rfl

theorem startOutcomes (x : Script) (failCompletions : Bool) :
    (x.start failCompletions f).1.outcomes = x.outcomes := by
  unfold start
  split
  · rfl
  · split
    · rfl
    · exact issueOutcomes x.opened

theorem rearmOutcomes (x : Script) (failResets : Bool) (r : Reading) :
    (x.rearm failResets f r).1.outcomes = x.outcomes := by
  unfold rearm
  split
  · rfl
  · exact issueOutcomes x

theorem rearmReads {x rest : Script} {failResets : Bool} {r : Reading} {p : Poll}
    (answer : x.rearm failResets f r = (rest, .ok p)) : p.reading = some r := by
  unfold rearm at answer
  split at answer
  · cases answer
  · cases answer
    rfl

theorem pollReads {x rest : Script} {size : Nat} {failResets : Bool} {p : Poll}
    (answer : x.poll size failResets f = (rest, .ok p)) :
    p.reading = (x.outcomes.headD .pending).reading? size f := by
  unfold poll at answer
  split at answer
  · next kind head =>
    cases answer
    rw [head]
    rfl
  · next other =>
    split at answer
    · next unread =>
      cases answer
      exact unread.symm
    · next r read => exact (rearmReads answer).trans read.symm

theorem pollOutcomes (x : Script) (size : Nat) (failResets : Bool) :
    (x.poll size failResets f).1.outcomes = x.outcomes.tail := by
  unfold poll
  split
  · rfl
  · split
    · rfl
    · exact rearmOutcomes x.advanced failResets _

end Script

namespace Lane

variable {c : Surroundings} {f : Folder} {v : Visit}

theorem attendTakes (opened : Bool) (x : Script) :
    x.outcomes = (attend c f opened x).taken ++ (attend c f opened x).lane.script.outcomes := by
  have tail := x.pollOutcomes (f := f) c.size c.failResets
  have whole : x.outcomes = x.outcomes.take 1 ++ x.outcomes.tail := by
    rw [← List.drop_one, List.take_append_drop]
  have way := attended c f opened x
  generalize attend c f opened x = done at way ⊢
  cases way with
  | failed answer | waits answer | ended answer _ _ | unwound answer _ _ =>
    rw [answer] at tail
    exact tail ▸ whole

theorem visitTakes (c : Surroundings) (f : Folder) (l : Lane) :
    l.script.outcomes = (l.visit c f).taken ++ (l.visit c f).lane.script.outcomes := by
  have same := l.script.startOutcomes (f := f) c.failCompletions
  have way := visited c f l
  generalize l.visit c f = done at way ⊢
  cases way with
  | held _ => exact attendTakes false l.script
  | @started x _ answer =>
    rw [answer] at same
    rw [← same]
    exact attendTakes true x
  | refused _ answer _ | struck _ answer _ =>
    rw [answer] at same
    exact same.symm

theorem attendTaken (opened : Bool) (x : Script) :
    (attend c f opened x).taken = x.outcomes.take 1 := by
  have way := attended c f opened x
  generalize attend c f opened x = done at way ⊢
  cases way <;> rfl

theorem attendHands (nothing : c.keep [] = .ok []) {opened : Bool} {x : Script}
    (ended : (attend c f opened x).result = .ok v) :
    c.keep ((x.outcomes.headD .pending).decoded c.size f) = .ok (v.batch?.getD []) := by
  rw [Outcome.decodedRead]
  have way := attended c f opened x
  generalize attend c f opened x = done at way ended
  cases way with
  | failed _ | unwound _ _ _ => cases ended
  | waits answer =>
    rw [← Script.pollReads answer]
    cases ended
    exact nothing
  | @ended rest p found answer _ finds =>
    rw [← Script.pollReads answer]
    cases ended
    cases read : p.reading with
    | none =>
      rw [read] at finds
      cases finds
      exact nothing
    | some r =>
      rw [read] at finds
      cases r with
      | changes es =>
        obtain ⟨kept, left, rfl⟩ := Surroundings.changesKept finds
        rw [Visit.handedChanges _ rfl]
        exact left
      | tooSmall | overflow =>
        cases finds
        exact nothing

theorem visitHands (nothing : c.keep [] = .ok []) {l : Lane} (ended : (l.visit c f).result = .ok v) :
    (∀ o ∈ (l.visit c f).taken, c.keep (o.decoded c.size f) = .ok (v.batch?.getD [])) ∧
      ((l.visit c f).taken = [] → v.batch?.getD [] = []) := by
  have looked : ∀ opened x, (attend c f opened x).result = .ok v →
      (∀ o ∈ (attend c f opened x).taken, c.keep (o.decoded c.size f) = .ok (v.batch?.getD [])) ∧
        ((attend c f opened x).taken = [] → v.batch?.getD [] = []) := by
    intro opened x ended
    have hands := attendHands nothing ended
    rw [attendTaken]
    cases queue : x.outcomes with
    | nil =>
      rw [queue] at hands
      have same := Except.ok.inj (nothing.symm.trans hands)
      exact ⟨fun _ inside => (nomatch inside), fun _ => same.symm⟩
    | cons o rest =>
      rw [queue] at hands
      refine ⟨fun p inside => ?_, fun empty => (nomatch empty)⟩
      rw [List.mem_singleton.mp inside]
      exact hands
  have way := visited c f l
  generalize l.visit c f = done at way ended ⊢
  cases way with
  | held _ | started _ _ => exact looked _ _ ended
  | refused _ _ _ =>
    cases ended
    exact ⟨fun _ inside => (nomatch inside), fun _ => rfl⟩
  | struck _ _ _ => cases ended

theorem visitTaken {l : Lane} (ended : (l.visit c f).result = .ok v) :
    (l.visit c f).taken = if l.watched || v.opened then l.script.outcomes.take 1 else [] := by
  have opens : ∀ opened x, (attend c f opened x).result = .ok v → v.opened = opened := by
    intro opened x ended
    have way := attended c f opened x
    generalize attend c f opened x = done at way ended
    cases way <;> cases ended <;> rfl
  have same := l.script.startOutcomes (f := f) c.failCompletions
  have way := visited c f l
  generalize l.visit c f = done at way ended ⊢
  cases way with
  | held watched => rw [watched, attendTaken, Bool.true_or, if_pos rfl]
  | started _ answer =>
    rw [answer] at same
    rw [opens _ _ ended, attendTaken, same, Bool.or_true, if_pos rfl]
  | refused unwatched _ _ =>
    cases ended
    rw [unwatched]
    rfl
  | struck _ _ _ => cases ended

theorem visitUnwinds {l : Lane} {panic : Panic}
    (unwound : (l.visit c f).result = .error (.panic panic)) :
    ∃ o, (l.visit c f).taken = [o] ∧ c.keep (o.decoded c.size f) = .error panic := by
  have looked : ∀ opened x, (attend c f opened x).result = .error (.panic panic) →
      ∃ o, (attend c f opened x).taken = [o] ∧ c.keep (o.decoded c.size f) = .error panic := by
    intro opened x unwound
    rw [attendTaken]
    have way := attended c f opened x
    generalize attend c f opened x = done at way unwound
    cases way with
    | failed _ | waits _ | ended _ _ _ => cases unwound
    | @unwound rest p _ answer _ gives =>
      cases unwound
      rw [Script.pollReads answer] at gives
      obtain ⟨es, read, unkept⟩ := Surroundings.changesUnkept gives
      cases queue : x.outcomes with
      | nil =>
        rw [queue] at read
        cases read
      | cons o rest =>
        rw [queue, List.headD_cons] at read
        refine ⟨o, rfl, ?_⟩
        rw [Outcome.decodedRead, read]
        exact unkept
  have way := visited c f l
  generalize l.visit c f = done at way unwound ⊢
  cases way with
  | held _ | started _ _ => exact looked _ _ unwound
  | refused _ _ _ | struck _ _ _ => cases unwound

end Lane

namespace Tick

def batchOf (t : Tick) (f : Folder) : Option (List Event) :=
  (t.visits.find? (·.folder = f)).bind Visit.batch?

def handed (t : Tick) (f : Folder) : List Event := (t.batchOf f).getD []

def opens (t : Tick) (f : Folder) : Bool := (t.visits.find? (·.folder = f)).any Visit.opened

variable {t : Tick}

theorem returnsHealthy (healthy : t.cut = none) : t.returns = true := by
  rw [returns, healthy]
  rfl

theorem returnsFault {e : Fault} (failed : t.cut = some (.fault e)) : t.returns = true := by
  rw [returns, failed]
  rfl

theorem cutReturns (returned : t.returns = true) {cut : Cut} (failed : t.cut = some cut) :
    ∃ e, cut = .fault e := by
  rw [returns, failed] at returned
  cases cut with
  | fault e => exact ⟨e, rfl⟩
  | panic panic => cases returned

theorem findVisit {visits : List Visit} (once : (visits.map Visit.folder).Nodup) {v : Visit}
    (inside : v ∈ visits) : visits.find? (·.folder = v.folder) = some v := by
  induction visits with
  | nil => cases inside
  | cons w visits ih =>
    obtain ⟨fresh, once⟩ := List.nodup_cons.mp once
    rcases List.mem_cons.mp inside with same | later
    · rw [same, List.find?_cons_of_pos (by simp)]
    · have other : w.folder ≠ v.folder := fun same =>
        fresh (same ▸ List.mem_map_of_mem later)
      rw [List.find?_cons_of_neg (by simpa using other)]
      exact ih once later

theorem batchOfVisit (once : (t.visits.map Visit.folder).Nodup) {v : Visit} (inside : v ∈ t.visits) :
    t.batchOf v.folder = v.batch? := by
  rw [batchOf, findVisit once inside, Option.bind_some]

theorem opensVisit (once : (t.visits.map Visit.folder).Nodup) {v : Visit} (inside : v ∈ t.visits) :
    t.opens v.folder = v.opened := by
  rw [opens, findVisit once inside, Option.any_some]

theorem handedUnvisited {f : Folder} (fresh : f ∉ t.visits.map Visit.folder) : t.handed f = [] := by
  have missing : t.visits.find? (·.folder = f) = none := by
    apply List.find?_eq_none.mpr
    intro v inside same
    exact fresh (List.mem_map.mpr ⟨v, inside, of_decide_eq_true same⟩)
  rw [handed, batchOf, missing, Option.bind_none, Option.getD_none]

theorem batchesInOrder (once : (t.visits.map Visit.folder).Nodup) :
    t.batches = (t.visits.map Visit.folder).filterMap t.batchOf := by
  rw [batches, List.filterMap_map]
  exact List.filterMap_congr fun v inside => (batchOfVisit once inside).symm

theorem endedStats {s : TickStats} (ended : t.stats = .ok s) :
    t.cut = none ∧ s = .ofVisits t.visits := by
  unfold stats at ended
  split at ended
  · cases ended
  · next healthy =>
    cases ended
    exact ⟨healthy, rfl⟩

theorem cutStats {cut : Cut} (failed : t.stats = .error cut) : t.cut = some cut := by
  unfold stats at failed
  split at failed
  · next struck =>
    cases failed
    exact struck
  · cases failed

end Tick

namespace Monitor

variable {isFolder : String → Bool} {m : Monitor} {f : Folder}

theorem keepNothing (isFolder : String → Bool) (m : Monitor) (f : Folder) :
    (m.surroundings isFolder f).keep [] = .ok [] := rfl

def filtered (isFolder : String → Bool) (m : Monitor) (f : Folder) (o : Outcome) :
    Except Panic (List Event) :=
  m.filter.keep isFolder f (o.decoded m.settings.bufferBytes f)

def delivered (isFolder : String → Bool) (m : Monitor) (f : Folder) (o : Outcome) : List Event :=
  (m.filtered isFolder f o).toOption.getD []

end Monitor
end FolderWatch
