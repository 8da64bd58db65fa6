import FolderWatch.Proofs.Monitor.Handed
import FolderWatch.Proofs.Monitor.History
import FolderWatch.Record.Draft

/-! What a life shows of one folder. While completions can be had and reset, a tick that comes back
is not cut short, and a folder fares as it would in a monitor of its own: two lives are followed in
step, tick by tick, and the edits that are none of the folder's business are seen by one of them
only. -/
namespace FolderWatch

namespace Script

variable {f : Folder}

theorem startRecoverable {x rest : Script} {fault : Fault}
    (refused : x.start false f = (rest, some fault)) : fault.isFatal = false := by
  unfold start at refused
  split at refused
  · cases refused
    rfl
  · simp only [Bool.false_eq_true, if_false, issue] at refused
    split at refused
    · cases refused
      rfl
    · cases refused

theorem pollEnds (x : Script) (size : Nat) : ∃ rest p, x.poll size false f = (rest, .ok p) := by
  unfold poll
  split
  · exact ⟨_, _, rfl⟩
  · split
    · exact ⟨_, _, rfl⟩
    · simp only [rearm, Bool.false_eq_true, if_false]
      exact ⟨_, _, rfl⟩

end Script

namespace Lane

variable {c : Surroundings} {f : Folder}

theorem attendFaultless (resets : c.failResets = false) (opened : Bool) (x : Script) (e : Fault) :
    (attend c f opened x).result ≠ .error (.fault e) := by
  obtain ⟨rest, p, answer⟩ := x.pollEnds (f := f) c.size
  rw [← resets] at answer
  have way := attended c f opened x
  generalize attend c f opened x = done at way ⊢
  cases way with
  | failed failed => cases answer.symm.trans failed
  | waits _ | ended _ _ _ | unwound _ _ _ => exact nofun

theorem visitFaultless (completes : c.failCompletions = false) (resets : c.failResets = false)
    (l : Lane) (e : Fault) : (l.visit c f).result ≠ .error (.fault e) := by
  have way := visited c f l
  generalize l.visit c f = done at way ⊢
  cases way with
  | held _ => exact attendFaultless resets false l.script e
  | started _ _ => exact attendFaultless resets true _ e
  | refused _ _ _ => exact nofun
  | struck _ answer fatal =>
    rw [completes] at answer
    rw [Script.startRecoverable answer] at fatal
    cases fatal

end Lane

namespace Source

variable {s t : Source} {f : Folder}

def Edit.concerns (f : Folder) : Edit → Bool
  | .push g _ | .failOpens g _ | .failReads g _ => g = f
  | .failCompletions _ | .failResets _ => true

def Edit.spares : Edit → Bool
  | .failCompletions fail | .failResets fail => !fail
  | _ => true

theorem editScript (same : s.script f = t.script f) (e : Edit) :
    (s.edit e).script f = (t.edit e).script f := by
  have set : ∀ g (change : Script → Script),
      (s.setScript g (change (s.script g))).script f =
        (t.setScript g (change (t.script g))).script f := by
    intro g change
    by_cases here : f = g
    · rw [← here, scriptSet, scriptSet, same]
    · rw [scriptSetOther s _ here, scriptSetOther t _ here, same]
  cases e with
  | push g o => exact set g fun x => { x with outcomes := x.outcomes ++ [o] }
  | failOpens g n => exact set g fun x => { x with openFailures := x.openFailures + n }
  | failReads g n => exact set g fun x => { x with readFailures := x.readFailures + n }
  | failCompletions b => exact same
  | failResets b => exact same

theorem editElsewhere {e : Edit} (elsewhere : e.concerns f = false) :
    (s.edit e).script f = s.script f := by
  cases e with
  | push g o => exact scriptSetOther s _ (Ne.symm (of_decide_eq_false elsewhere))
  | failOpens g n => exact scriptSetOther s _ (Ne.symm (of_decide_eq_false elsewhere))
  | failReads g n => exact scriptSetOther s _ (Ne.symm (of_decide_eq_false elsewhere))
  | failCompletions b => cases elsewhere
  | failResets b => cases elsewhere

theorem editSpares {e : Edit} (spares : e.spares = true)
    (works : s.failCompletions = false ∧ s.failResets = false) :
    (s.edit e).failCompletions = false ∧ (s.edit e).failResets = false := by
  cases e with
  | failCompletions b => exact ⟨Bool.not_eq_true' b ▸ spares, works.2⟩
  | failResets b => exact ⟨works.1, Bool.not_eq_true' b ▸ spares⟩
  | _ => exact works

end Source

theorem Exclude.Filter.ofLinesAlone {folders : List Folder} {lines : List String} {filter : Filter}
    {f : Folder} (made : ofLines folders lines = .ok filter) (listed : f ∈ folders) :
    ∃ alone, ofLines [f] lines = .ok alone ∧
      ∀ isFolder, alone.keep isFolder f = filter.keep isFolder f := by
  have some : folders.isEmpty = false := by
    rw [Bool.eq_false_iff, ne_eq, List.isEmpty_iff]
    exact List.ne_nil_of_mem listed
  unfold ofLines at *
  rw [some, Bool.or_false] at made
  rw [List.isEmpty_cons, Bool.or_false]
  split at made
  · next noLines =>
    rw [if_pos noLines]
    exact ⟨filter, made, fun _ => rfl⟩
  · next lined =>
    rw [if_neg lined]
    cases read : readLines lines with
    | error flaw =>
      rw [read] at made
      cases made
    | ok rules =>
      rw [read] at made
      cases made
      refine ⟨_, rfl, fun isFolder => ?_⟩
      have inside : folders.contains f = true := List.contains_iff_mem.mpr listed
      have own : [f].contains f = true := List.contains_iff_mem.mpr List.mem_cons_self
      funext es
      induction es with
      | nil => rfl
      | cons e es ih => simp only [keep, skips, inside, own, ih]

namespace Monitor

variable {isFolder : String → Bool} {m n k : Monitor} {f : Folder}

/-- What shows of a folder after a tick: its lane, and the batch that its visit handed on. -/
structure View where
  lane : Lane
  batch : Option (List Event)
  deriving DecidableEq, Repr

def views (isFolder : String → Bool) (f : Folder) (m : Monitor) : List Act → List View
  | [] => []
  | .edit e :: acts => (m.edit e).views isFolder f acts
  | .tick :: acts =>
      let (n, t) := m.tick isFolder
      ⟨n.lane f, t.batchOf f⟩ :: n.views isFolder f acts

def Act.concerns (f : Folder) : Act → Bool
  | .edit e => e.concerns f
  | .tick => true

def Act.spares : Act → Bool
  | .edit e => e.spares
  | .tick => true

/-- A monitor in which a folder is watched and one of its own, with the same to go by, and in which
it stands the same. -/
structure Alike (isFolder : String → Bool) (f : Folder) (m n : Monitor) : Prop where
  left : m.Sound
  right : n.Sound
  inside : f ∈ m.folders
  alone : n.folders = [f]
  lane : m.lane f = n.lane f
  surroundings : m.surroundings isFolder f = n.surroundings isFolder f
  works : m.source.failCompletions = false ∧ m.source.failResets = false

theorem Halt.unstruck {fs : List Folder} {visits : List Visit} {cut : Option Cut}
    (halt : Halt isFolder m n fs visits cut)
    (ends : ∀ g ∈ fs, ∃ v, ((m.lane g).visit (m.surroundings isFolder g) g).result = .ok v) :
    cut = none := by
  cases halt with
  | behind => rfl
  | struck visits g rest cut failed =>
    obtain ⟨v, ended⟩ := ends g (List.mem_append_right _ List.mem_cons_self)
    cases failed.symm.trans ended

theorem Halt.faultless {fs : List Folder} {visits : List Visit} {e : Fault}
    (halt : Halt isFolder m n fs visits (some (.fault e))) :
    ∃ g, ((m.lane g).visit (m.surroundings isFolder g) g).result = .error (.fault e) := by
  cases halt with
  | struck visits g rest cut failed => exact ⟨g, failed⟩

theorem tickHealthy (sound : m.Sound) (returned : (m.tick isFolder).2.returns = true)
    (works : m.source.failCompletions = false ∧ m.source.failResets = false) :
    (m.tick isFolder).2.cut = none := by
  have halt := (tickSwept isFolder sound).halt
  cases stopped : (m.tick isFolder).2.cut with
  | none => rfl
  | some cut =>
    obtain ⟨e, rfl⟩ := Tick.cutReturns returned stopped
    rw [stopped] at halt
    obtain ⟨g, failed⟩ := halt.faultless
    exact absurd failed (Lane.visitFaultless works.1 works.2 (m.lane g) e)

theorem tickView (sound : m.Sound) (inside : f ∈ m.folders)
    (healthy : (m.tick isFolder).2.cut = none) :
    ∃ v, ((m.lane f).visit (m.surroundings isFolder f) f).result = .ok v ∧
      (m.tick isFolder).1.lane f = ((m.lane f).visit (m.surroundings isFolder f) f).lane ∧
      (m.tick isFolder).2.batchOf f = v.batch? := by
  have swept := tickSwept isFolder sound
  obtain ⟨v, member, rfl, ended, left⟩ := swept.comesTo healthy inside
  exact ⟨v, ended, left, Tick.batchOfVisit (swept.halt.once sound.once) member⟩

namespace Alike

theorem ticked (alike : Alike isFolder f m n) (returned : (m.tick isFolder).2.returns = true) :
    Alike isFolder f (m.tick isFolder).1 (n.tick isFolder).1 ∧
      (m.tick isFolder).2.batchOf f = (n.tick isFolder).2.batchOf f ∧
      (n.tick isFolder).2.cut = none := by
  have sweptLeft := tickSwept isFolder alike.left
  have sweptRight := tickSwept isFolder alike.right
  have healthyLeft := tickHealthy alike.left returned alike.works
  obtain ⟨v, endedLeft, laneLeft, batchLeft⟩ := tickView alike.left alike.inside healthyLeft
  have healthyRight : (n.tick isFolder).2.cut = none := by
    apply sweptRight.halt.unstruck
    intro g watched
    rw [alike.alone, List.mem_singleton] at watched
    rw [watched, ← alike.lane, ← alike.surroundings]
    exact ⟨v, endedLeft⟩
  obtain ⟨w, endedRight, laneRight, batchRight⟩ :=
    tickView alike.right (alike.alone ▸ List.mem_cons_self) healthyRight
  rw [← alike.lane, ← alike.surroundings] at endedRight laneRight
  have same : v = w := Except.ok.inj (endedLeft.symm.trans endedRight)
  refine ⟨?_, by rw [batchLeft, batchRight, same], healthyRight⟩
  constructor
  case left => exact sweptLeft.sound returned
  case right => exact sweptRight.sound (Tick.returnsHealthy healthyRight)
  case inside => exact sweptLeft.frame.folders ▸ alike.inside
  case alone => exact sweptRight.frame.folders.trans alike.alone
  case lane => rw [laneLeft, laneRight]
  case surroundings =>
    rw [sweptLeft.frame.surroundings isFolder, sweptRight.frame.surroundings isFolder]
    exact alike.surroundings
  case works => exact ⟨sweptLeft.frame.failCompletions.trans alike.works.1,
    sweptLeft.frame.failResets.trans alike.works.2⟩

theorem surroundingsEdited (alike : Alike isFolder f m n) (e : Source.Edit) :
    (m.edit e).surroundings isFolder f = (n.edit e).surroundings isFolder f := by
  have same := alike.surroundings
  simp only [Monitor.surroundings, Surroundings.mk.injEq] at same
  obtain ⟨size, keep, completions, resets⟩ := same
  cases e <;> simp only [Monitor.surroundings, edit, Source.edit, Source.setScript, size, keep,
    completions, resets]

theorem edited (alike : Alike isFolder f m n) {e : Source.Edit} (spares : e.spares = true) :
    Alike isFolder f (m.edit e) (n.edit e) where
  left := alike.left.edited e
  right := alike.right.edited e
  inside := alike.inside
  alone := alike.alone
  lane := by
    have script := congrArg Lane.script alike.lane
    have watched := congrArg Lane.watched alike.lane
    exact congrArg₂ Lane.mk (Source.editScript script e) watched
  surroundings := alike.surroundingsEdited e
  works := Source.editSpares spares alike.works

theorem editedElsewhere (alike : Alike isFolder f m n) {e : Source.Edit}
    (elsewhere : e.concerns f = false) : Alike isFolder f (m.edit e) n where
  left := alike.left.edited e
  right := alike.right
  inside := alike.inside
  alone := alike.alone
  lane := by
    have script : (m.edit e).source.script f = m.source.script f := Source.editElsewhere elsewhere
    rw [← alike.lane, Monitor.lane, script]
    rfl
  surroundings := by
    rw [← alike.surroundings]
    cases e with
    | failCompletions b => cases elsewhere
    | failResets b => cases elsewhere
    | _ => rfl
  works := by
    cases e with
    | failCompletions b => cases elsewhere
    | failResets b => cases elsewhere
    | _ => exact alike.works

theorem viewed (alike : Alike isFolder f m n) (acts : List Act)
    (spared : ∀ act ∈ acts, act.spares = true)
    (returned : ∀ t ∈ (m.history isFolder acts).2, t.returns = true) :
    m.views isFolder f acts = n.views isFolder f (acts.filter (·.concerns f)) ∧
      ∀ t ∈ (n.history isFolder (acts.filter (·.concerns f))).2, t.cut = none := by
  induction acts generalizing m n with
  | nil => exact ⟨rfl, List.forall_mem_nil _⟩
  | cons act acts ih =>
    have later : ∀ act ∈ acts, act.spares = true :=
      fun act inside => spared act (List.mem_cons_of_mem _ inside)
    cases act with
    | edit e =>
      cases concerns : e.concerns f with
      | true =>
        have spares : e.spares = true := spared (.edit e) List.mem_cons_self
        rw [List.filter_cons_of_pos (by exact concerns)]
        exact ih (alike.edited spares) later returned
      | false =>
        rw [List.filter_cons_of_neg (by simpa [Act.concerns] using concerns)]
        exact ih (alike.editedElsewhere concerns) later returned
    | tick =>
      obtain ⟨first, rest⟩ := List.forall_mem_cons.mp returned
      obtain ⟨next, batch, healthy⟩ := alike.ticked first
      obtain ⟨same, ended⟩ := ih next later rest
      rw [List.filter_cons_of_pos rfl]
      simp only [views, next.lane, batch, same, true_and]
      exact List.forall_mem_cons.mpr ⟨healthy, ended⟩

end Alike

theorem aloneAlike {folders : List Folder} {settings : Settings}
    (made : create .fresh folders settings = .ok m) (listed : f ∈ folders)
    (isFolder : String → Bool) :
    ∃ alone, create .fresh [f] settings = .ok alone ∧ Alike isFolder f m alone := by
  have sound := Sound.created made
  have one : distinct [f] = [f] := rfl
  have inside : f ∈ distinct folders := (distinctMembers folders f).mpr listed
  unfold create at made
  cases valid : settings.validate with
  | error fault =>
    rw [valid] at made
    cases made
  | ok =>
    simp only [valid] at made
    cases filtered : Exclude.Filter.ofLines (distinct folders) settings.exclude with
    | error flaw =>
      simp only [filtered] at made
      cases made
    | ok filter =>
      simp only [filtered] at made
      cases made
      obtain ⟨own, ownMade, keeps⟩ := Exclude.Filter.ofLinesAlone filtered inside
      have alone : create .fresh [f] settings = .ok ⟨settings, [f], own, [], .fresh, 0⟩ := by
        simp only [create, valid, one, ownMade]
      refine ⟨_, alone, sound, Sound.created alone, inside, rfl, rfl, ?_, rfl, rfl⟩
      simp only [Monitor.surroundings, keeps]

/-- What shows of a folder depends on the settings and on the edits that concern it, and on
nothing else: not on the other folders, their order, or what befalls them. -/
theorem foldersApart {folders : List Folder} {settings : Settings}
    (made : create .fresh folders settings = .ok m) (listed : f ∈ folders)
    (isFolder : String → Bool) (acts : List Act) (spared : ∀ act ∈ acts, act.spares = true)
    (returned : ∀ t ∈ (m.history isFolder acts).2, t.returns = true) :
    (∃ alone, create .fresh [f] settings = .ok alone ∧
      m.views isFolder f acts = alone.views isFolder f (acts.filter (·.concerns f)) ∧
      ∀ t ∈ (alone.history isFolder (acts.filter (·.concerns f))).2, t.cut = none) ∧
    ∀ {others : List Folder} {n : Monitor} {rest : List Act},
      create .fresh others settings = .ok n → f ∈ others → (∀ act ∈ rest, act.spares = true) →
      (∀ t ∈ (n.history isFolder rest).2, t.returns = true) →
      rest.filter (·.concerns f) = acts.filter (·.concerns f) →
      n.views isFolder f rest = m.views isFolder f acts := by
  obtain ⟨alone, own, alike⟩ := aloneAlike made listed isFolder
  have viewed := alike.viewed acts spared returned
  refine ⟨⟨alone, own, viewed⟩, ?_⟩
  intro others n rest madeOther listedOther sparedOther returnedOther same
  obtain ⟨again, ownAgain, alikeOther⟩ := aloneAlike madeOther listedOther isFolder
  have one : again = alone := Except.ok.inj (ownAgain.symm.trans own)
  rw [(alikeOther.viewed rest sparedOther returnedOther).1, one, same, viewed.1]

theorem foldersApartInReverse :
    let d := Folder.ofText "d"
    let e := Folder.ofText "e"
    let created := Outcome.records (Draft.push .empty 1 "a").finish.1
    let m : Monitor := ⟨.default, [d, e], .empty, [], .fresh, 0⟩
    let n : Monitor := ⟨.default, [e, d], .empty, [], .fresh, 0⟩
    let acts : List Act := [.edit (.failOpens d 1), .edit (.push e created), .tick,
      .edit (.push d (.failure .other)), .edit (.failReads d 1), .tick, .edit (.push e .overflow),
      .tick]
    let rest : List Act := [.edit (.push e created), .tick, .tick, .edit (.push e .overflow), .tick]
    create .fresh [d, e] .default = .ok m ∧ create .fresh [e, d] .default = .ok n ∧
      (∀ t ∈ (m.history (fun _ => false) acts).2, t.returns = true) ∧
      (∃ alone, create .fresh [e] .default = .ok alone ∧ m.views (fun _ => false) e acts =
        alone.views (fun _ => false) e (acts.filter (·.concerns e))) ∧
      n.views (fun _ => false) e rest = m.views (fun _ => false) e acts := by
  intro d e created m n acts rest
  have made : create .fresh [d, e] .default = .ok m := rfl
  have madeOther : create .fresh [e, d] .default = .ok n := rfl
  have listed : e ∈ [d, e] := by decide
  have spared : ∀ act ∈ acts, act.spares = true := by decide
  have returned : ∀ t ∈ (m.history (fun _ => false) acts).2, t.returns = true := by decide +kernel
  obtain ⟨⟨alone, own, same, -⟩, apart⟩ :=
    foldersApart made listed (fun _ => false) acts spared returned
  exact ⟨made, madeOther, returned, ⟨alone, own, same⟩,
    apart madeOther (by decide) (by decide) (by decide +kernel) (by decide)⟩

/-- Both folders have a record waiting. That of `a`, visited first, unwinds the tick, and `b` is not
visited; alone, or listed in front of `a`, it has its event. -/
theorem unvisitedBehindUnwound :
    let a := Folder.ofText "a"
    let b := Folder.ofText "b"
    let settings := { Settings.default with exclude := ["x"] }
    let line : Exclude.Rule := ⟨.leading :: "x".toList.map .literal, false, false⟩
    let watching := fun fs => Monitor.mk settings fs ⟨fs, [line], false⟩ [] .fresh 0
    let records := fun name => Outcome.records (Draft.push .empty 1 name).finish.1
    let acts : List Act := [.edit (.push a (records "a//b")), .edit (.push b (records "c")), .tick]
    let batches := fun (m : Monitor) acts => (m.views (fun _ => false) b acts).map View.batch
    (∀ fs ∈ [[a, b], [b, a], [b]], create .fresh fs settings = .ok (watching fs)) ∧
      (∀ act ∈ acts, act.spares = true) ∧
      batches (watching [a, b]) acts = [none] ∧
      batches (watching [b, a]) acts = [some [⟨"b/c", ⟨[.created]⟩⟩]] ∧
      batches (watching [b]) (acts.filter (·.concerns b)) = [some [⟨"b/c", ⟨[.created]⟩⟩]] := by
  intro a b settings line watching records acts batches
  have made : ∀ fs ∈ [[a, b], [b, a], [b]], create .fresh fs settings = .ok (watching fs) := by
    intro fs listed
    simp only [List.mem_cons, List.not_mem_nil, or_false] at listed
    dsimp only [watching, line, settings]
    rcases listed with rfl | rfl | rfl <;> rfl
  exact ⟨made, by decide, by decide +kernel, by decide +kernel, by decide +kernel⟩

end Monitor
end FolderWatch
