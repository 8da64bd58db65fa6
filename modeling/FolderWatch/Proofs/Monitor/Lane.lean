import FolderWatch.Monitor.Basic

/-! One folder by itself. A lane is all of a monitor that a visit to the folder can change and that
an answer can show: its script and whether a session watches it. Visits are told here without
handles, buffers, requests or other folders. -/
namespace FolderWatch

def Outcome.reading? (size : Nat) (f : Folder) : Outcome → Option Reading
  | .records bytes =>
      if 0 < bytes.length ∧ bytes.length ≤ size then
        some (.changes ((Chain.read bytes).events f))
      else some .tooSmall
  | .nothing => some .tooSmall
  | .overflow => some .overflow
  | .pending | .failure _ => none

namespace Script

def opened (x : Script) : Script := { x with opens := x.opens + 1 }

def advanced (x : Script) : Script := { x with outcomes := x.outcomes.tail }

def issue (f : Folder) (x : Script) : Script × Option Fault :=
  match x.readFailures with
  | n + 1 => ({ x with readFailures := n }, some (.notIssued f.text Source.accessDenied))
  | 0 => ({ x with reads := x.reads + 1 }, none)

def start (failCompletions : Bool) (f : Folder) (x : Script) : Script × Option Fault :=
  match x.openFailures with
  | n + 1 => ({ x with openFailures := n }, some (.notOpened f.text Source.pathMissing))
  | 0 =>
      if failCompletions then (x.opened, some (.noCompletion f.text Source.outOfMemory))
      else x.opened.issue f

theorem startRefused {f : Folder} {x : Script} {n : Nat} (left : x.openFailures = n + 1)
    (failCompletions : Bool) : x.start failCompletions f =
      ({ x with openFailures := n }, some (.notOpened f.text Source.pathMissing)) := by
  simp only [start, left]

theorem startOpened {f : Folder} {x : Script} (left : x.openFailures = 0)
    (failCompletions : Bool) : x.start failCompletions f =
      if failCompletions then (x.opened, some (.noCompletion f.text Source.outOfMemory))
      else x.opened.issue f := by
  simp only [start, left]

def rearm (failResets : Bool) (f : Folder) (x : Script) (r : Reading) :
    Script × Except Fault Poll :=
  if failResets then (x, .error (.noReset f.text Source.invalidHandle))
  else
    let (rest, fault) := x.issue f
    (rest, .ok ⟨some r, fault⟩)

def poll (size : Nat) (failResets : Bool) (f : Folder) (x : Script) : Script × Except Fault Poll :=
  match x.outcomes.headD .pending with
  | .failure kind =>
      (x.advanced, .ok ⟨none, some (.notCompleted f.text ⟨kind, "scripted completion failure"⟩)⟩)
  | o =>
      match o.reading? size f with
      | none => (x.advanced, .ok .pending)
      | some r => x.advanced.rearm failResets f r

end Script

inductive Poll.Answers (failResets : Bool) (f : Folder) : Except Fault Poll → Prop
  | waits : Answers failResets f (.ok .pending)
  | notCompleted (cause : Failure) :
      Answers failResets f (.ok ⟨none, some (.notCompleted f.text cause)⟩)
  | noReset (fails : failResets = true) :
      Answers failResets f (.error (.noReset f.text Source.invalidHandle))
  | notIssued (r : Reading) :
      Answers failResets f (.ok ⟨some r, some (.notIssued f.text Source.accessDenied)⟩)
  | rearmed (r : Reading) : Answers failResets f (.ok ⟨some r, none⟩)

namespace Script

theorem rearmAnswers (failResets : Bool) (f : Folder) (x : Script) (r : Reading) :
    Poll.Answers failResets f (x.rearm failResets f r).2 := by
  cases fails : failResets with
  | true => exact .noReset rfl
  | false =>
    cases failures : x.readFailures with
    | zero =>
      simp only [rearm, issue, failures, Bool.false_eq_true, if_false]
      exact .rearmed r
    | succ n =>
      simp only [rearm, issue, failures, Bool.false_eq_true, if_false]
      exact .notIssued r

theorem pollAnswers (size : Nat) (failResets : Bool) (f : Folder) (x : Script) :
    Poll.Answers failResets f (x.poll size failResets f).2 := by
  unfold poll
  split
  · exact .notCompleted _
  · split
    · exact .waits
    · exact x.advanced.rearmAnswers failResets f _

end Script

/-- What a visit reads beside the lane: the size of buffers, which events to hand on, and which
calls of the system fail everywhere. -/
structure Surroundings where
  size : Nat
  keep : List Event → Except Panic (List Event)
  failCompletions : Bool
  failResets : Bool

namespace Surroundings

def finding (c : Surroundings) : Option Reading → Except Panic Finding
  | some (.changes es) => (c.keep es).map fun kept => .changes kept (es.length - kept.length)
  | some .overflow => .ok .overflow
  | some .tooSmall => .ok .tooSmall
  | none => .ok .failed

variable {c : Surroundings}

theorem changesKept {es : List Event} {found : Finding}
    (finds : c.finding (some (.changes es)) = .ok found) :
    ∃ kept, c.keep es = .ok kept ∧ found = .changes kept (es.length - kept.length) := by
  cases left : c.keep es with
  | error panic => simp only [finding, left, Except.map, reduceCtorEq] at finds
  | ok kept =>
    simp only [finding, left, Except.map, Except.ok.injEq] at finds
    exact ⟨kept, rfl, finds.symm⟩

theorem changesUnkept {r : Option Reading} {panic : Panic} (gives : c.finding r = .error panic) :
    ∃ es, r = some (.changes es) ∧ c.keep es = .error panic := by
  cases r with
  | none => cases gives
  | some r =>
    cases r with
    | tooSmall | overflow => cases gives
    | changes es =>
      refine ⟨es, rfl, ?_⟩
      cases left : c.keep es with
      | error given => simpa only [finding, left, Except.map, Except.error.injEq] using gives
      | ok kept => simp only [finding, left, Except.map, reduceCtorEq] at gives

end Surroundings

theorem Poll.pendingIff (p : Poll) : p.isPending = true ↔ p = .pending := by
  obtain ⟨reading, failure⟩ := p
  simp only [isPending, Bool.and_eq_true, Option.isNone_iff_eq_none, pending, Poll.mk.injEq]

structure Lane where
  script : Script
  watched : Bool
  deriving DecidableEq, Repr

/-- A visit to a lane: what it leaves, the outcomes it took, and how it ended. -/
structure Passage where
  lane : Lane
  taken : List Outcome
  result : Except Cut Visit

namespace Lane

def attend (c : Surroundings) (f : Folder) (opened : Bool) (x : Script) : Passage :=
  let taken := x.outcomes.take 1
  match x.poll c.size c.failResets f with
  | (rest, .error fault) => ⟨⟨rest, false⟩, taken, .error (.fault fault)⟩
  | (rest, .ok p) =>
      if p.isPending then ⟨⟨rest, true⟩, taken, .ok ⟨f, opened, some .pending, false⟩⟩
      else
        match c.finding p.reading with
        | .error panic => ⟨⟨rest, true⟩, taken, .error (.panic panic)⟩
        | .ok found => ⟨⟨rest, !p.mustEvict⟩, taken, .ok ⟨f, opened, some found, p.mustEvict⟩⟩

def visit (c : Surroundings) (f : Folder) (l : Lane) : Passage :=
  if l.watched then attend c f false l.script
  else
    match l.script.start c.failCompletions f with
    | (x, none) => attend c f true x
    | (x, some fault) =>
        ⟨⟨x, false⟩, [],
          if fault.isFatal then .error (.fault fault) else .ok ⟨f, false, none, false⟩⟩

inductive Attended (c : Surroundings) (f : Folder) (opened : Bool) (x : Script) : Passage → Prop
  | failed {rest : Script} {fault : Fault}
      (answer : x.poll c.size c.failResets f = (rest, .error fault)) :
      Attended c f opened x ⟨⟨rest, false⟩, x.outcomes.take 1, .error (.fault fault)⟩
  | waits {rest : Script} (answer : x.poll c.size c.failResets f = (rest, .ok .pending)) :
      Attended c f opened x
        ⟨⟨rest, true⟩, x.outcomes.take 1, .ok ⟨f, opened, some .pending, false⟩⟩
  | ended {rest : Script} {p : Poll} {found : Finding}
      (answer : x.poll c.size c.failResets f = (rest, .ok p)) (finished : p.isPending = false)
      (finds : c.finding p.reading = .ok found) :
      Attended c f opened x ⟨⟨rest, !p.mustEvict⟩, x.outcomes.take 1,
        .ok ⟨f, opened, some found, p.mustEvict⟩⟩
  | unwound {rest : Script} {p : Poll} {panic : Panic}
      (answer : x.poll c.size c.failResets f = (rest, .ok p)) (finished : p.isPending = false)
      (gives : c.finding p.reading = .error panic) :
      Attended c f opened x ⟨⟨rest, true⟩, x.outcomes.take 1, .error (.panic panic)⟩

inductive Visited (c : Surroundings) (f : Folder) (l : Lane) : Passage → Prop
  | held (watched : l.watched = true) : Visited c f l (attend c f false l.script)
  | started {x : Script} (unwatched : l.watched = false)
      (answer : l.script.start c.failCompletions f = (x, none)) :
      Visited c f l (attend c f true x)
  | refused {x : Script} {fault : Fault} (unwatched : l.watched = false)
      (answer : l.script.start c.failCompletions f = (x, some fault))
      (recoverable : fault.isFatal = false) :
      Visited c f l ⟨⟨x, false⟩, [], .ok ⟨f, false, none, false⟩⟩
  | struck {x : Script} {fault : Fault} (unwatched : l.watched = false)
      (answer : l.script.start c.failCompletions f = (x, some fault))
      (fatal : fault.isFatal = true) : Visited c f l ⟨⟨x, false⟩, [], .error (.fault fault)⟩

theorem attended (c : Surroundings) (f : Folder) (opened : Bool) (x : Script) :
    Attended c f opened x (attend c f opened x) := by
  unfold attend
  cases answer : x.poll c.size c.failResets f with
  | mk rest outcome =>
    cases outcome with
    | error fault => exact .failed answer
    | ok p =>
      cases pending : p.isPending with
      | false =>
        simp only [pending, Bool.false_eq_true, if_false]
        cases finds : c.finding p.reading with
        | error panic => exact .unwound answer pending finds
        | ok found => exact .ended answer pending finds
      | true =>
        cases p.pendingIff.mp pending
        exact .waits answer

theorem visited (c : Surroundings) (f : Folder) (l : Lane) : Visited c f l (l.visit c f) := by
  unfold visit
  cases watched : l.watched with
  | true => exact .held watched
  | false =>
    simp only [Bool.false_eq_true, if_false]
    cases answer : l.script.start c.failCompletions f with
    | mk x outcome =>
      cases outcome with
      | none => exact .started watched answer
      | some fault =>
        cases fatal : fault.isFatal with
        | true =>
          simp only [fatal, if_true]
          exact .struck watched answer fatal
        | false =>
          simp only [fatal, Bool.false_eq_true, if_false]
          exact .refused watched answer fatal

end Lane

namespace Monitor

def lane (m : Monitor) (f : Folder) : Lane := ⟨m.source.script f, (Table.get? m.registry f).isSome⟩

def surroundings (isFolder : String → Bool) (m : Monitor) (f : Folder) : Surroundings :=
  ⟨m.settings.bufferBytes, m.filter.keep isFolder f, m.source.failCompletions, m.source.failResets⟩

end Monitor
end FolderWatch
