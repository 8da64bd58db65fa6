import FolderWatch.Proofs.Monitor.Handed
import FolderWatch.Proofs.Monitor.Resources
import FolderWatch.Record.Draft

/-! The loop around the ticks against the ticks alone. A run that is asked to stop in its sleep
after so many ticks makes just these ticks and lets everything go; a tick cut short before that ends
it, with its fault or with nothing said. -/
namespace FolderWatch

def Cut.ending : Cut → Monitor.RunEnd
  | .fault e => .failed e
  | .panic p => .unwound p

def Cut.farewell : Cut → List Message
  | .fault e => [.stoppedBy e]
  | .panic _ => []

namespace Monitor

variable {isFolder : String → Bool} {m n : Monitor}

/-- A monitor in its sleep after some ticks. The request to stop comes in the sleep after the ticks
that are awaited. -/
def asleep (awaited ticks : Nat) (m : Monitor) : Monitor :=
  if ticks == awaited then m.requestStop else m

def ticked (isFolder : String → Bool) (m : Monitor) (n : Nat) : Monitor × List Tick :=
  m.history isFolder (List.replicate n .tick)

theorem tickedFirst (isFolder : String → Bool) (m : Monitor) (n : Nat) :
    m.ticked isFolder (n + 1) =
      (((m.tick isFolder).1.ticked isFolder n).1,
        (m.tick isFolder).2 :: ((m.tick isFolder).1.ticked isFolder n).2) := rfl

theorem tickedAdd (isFolder : String → Bool) (m : Monitor) (a b : Nat) :
    m.ticked isFolder (a + b) =
      (((m.ticked isFolder a).1.ticked isFolder b).1,
        (m.ticked isFolder a).2 ++ ((m.ticked isFolder a).1.ticked isFolder b).2) := by
  induction a generalizing m with
  | zero => rw [Nat.zero_add]; rfl
  | succ a ih => rw [Nat.succ_add, tickedFirst, ih, tickedFirst]; rfl

theorem Sound.tickedFrame {n : Nat} (sound : m.Sound)
    (healthy : ∀ t ∈ (m.ticked isFolder n).2, t.cut = none) :
    (m.ticked isFolder n).1.Sound ∧ Frame m (m.ticked isFolder n).1 := by
  induction n generalizing m with
  | zero => exact ⟨sound, Frame.refl m⟩
  | succ n ih =>
    have swept := tickSwept isFolder sound
    obtain ⟨first, later⟩ := List.forall_mem_cons.mp healthy
    obtain ⟨after, frame⟩ := ih (swept.sound (Tick.returnsHealthy first)) later
    exact ⟨after, swept.frame.trans frame⟩

theorem loopAsked {asks : Stopper} (quiet : m.stopRequests = 0) (fuel ticks received : Nat) :
    m.requestStop.loop isFolder asks fuel ticks received =
      (m.clear.1, ⟨[], .stopped, .stopped :: m.clear.2⟩) := by
  have asked : m.requestStop.stopRequests = 0 + 1 := congrArg (· + 1) quiet
  have back : { m.requestStop with stopRequests := 0 } = m := by
    rw [← quiet]
    rfl
  cases fuel <;> simp only [loop, asked, back]

theorem loopIdle {asks : Stopper} (quiet : m.stopRequests = 0) (ticks received : Nat) :
    m.loop isFolder asks 0 ticks received = (m, ⟨[], .endless, []⟩) := by
  simp only [loop, quiet]

section Awaited

variable {awaited fuel ticks received : Nat}

theorem loopCut (quiet : m.stopRequests = 0) {cut : Cut}
    (failed : (m.tick isFolder).2.cut = some cut) :
    m.loop isFolder (.afterTicks awaited) (fuel + 1) ticks received =
      ((m.tick isFolder).1.asleep awaited (ticks + 1), ⟨(m.tick isFolder).2.batches,
        cut.ending, (m.tick isFolder).2.log ++ cut.farewell⟩) := by
  simp only [loop, quiet, failed]
  cases cut with
  | fault e => rfl
  | panic panic => rw [Cut.farewell, List.append_nil]; rfl

theorem loopOn (quiet : m.stopRequests = 0) (ended : (m.tick isFolder).2.cut = none) :
    m.loop isFolder (.afterTicks awaited) (fuel + 1) ticks received =
      let rest := ((m.tick isFolder).1.asleep awaited (ticks + 1)).loop isFolder
        (.afterTicks awaited) fuel (ticks + 1) (received + (m.tick isFolder).2.batches.length)
      (rest.1, ⟨(m.tick isFolder).2.batches ++ rest.2.batches, rest.2.ending,
        (m.tick isFolder).2.log ++ rest.2.log⟩) := by
  simp only [loop, quiet, ended]
  rfl

theorem asleepEarly (early : ticks < awaited) : m.asleep awaited ticks = m := by
  have different : (ticks == awaited) = false := beq_false_of_ne (Nat.ne_of_lt early)
  simp only [asleep, different, Bool.false_eq_true, if_false]

theorem asleepLast : m.asleep awaited awaited = m.requestStop := by
  simp only [asleep, beq_self_eq_true, if_true]

theorem loopRuns {after : Monitor} {rest : Run} (sound : m.Sound) (quiet : m.stopRequests = 0)
    (n fuel ticks received : Nat) (early : ticks + n ≤ awaited)
    (healthy : ∀ t ∈ (m.ticked isFolder n).2, t.cut = none)
    (goes : ∀ received, ((m.ticked isFolder n).1.asleep awaited (ticks + n)).loop isFolder
      (.afterTicks awaited) fuel (ticks + n) received = (after, rest)) :
    (m.asleep awaited ticks).loop isFolder (.afterTicks awaited) (n + fuel) ticks received =
      (after, ⟨(m.ticked isFolder n).2.flatMap Tick.batches ++ rest.batches, rest.ending,
        (m.ticked isFolder n).2.flatMap Tick.log ++ rest.log⟩) := by
  induction n generalizing m ticks received with
  | zero =>
    rw [Nat.zero_add]
    exact goes received
  | succ n ih =>
    have swept := tickSwept isFolder sound
    have step : ticks + (n + 1) = ticks + 1 + n := by omega
    rw [step] at early goes
    rw [tickedFirst] at healthy goes ⊢
    obtain ⟨first, others⟩ := List.forall_mem_cons.mp healthy
    have later := ih (swept.sound (Tick.returnsHealthy first)) (swept.frame.stopRequests.trans quiet)
      (ticks + 1) (received + (m.tick isFolder).2.batches.length) early others goes
    rw [asleepEarly (by omega), Nat.succ_add, loopOn quiet first, later]
    simp only [List.flatMap_cons, List.append_assoc]

end Awaited

def firstMessage (m : Monitor) : Message :=
  .watching m.folders.length m.settings.sleep m.settings.bufferBytes

section Runs

variable {k i fuel : Nat}

theorem runRuns {after : Monitor} {rest : Run} (sound : m.Sound) (quiet : m.stopRequests = 0)
    (n fuel : Nat) (early : n ≤ k) (healthy : ∀ t ∈ (m.ticked isFolder n).2, t.cut = none)
    (goes : ∀ received, ((m.ticked isFolder n).1.asleep k n).loop isFolder (.afterTicks k) fuel n
      received = (after, rest)) :
    (m.asleep k 0).run isFolder (.afterTicks k) (n + fuel) =
      (after, ⟨(m.ticked isFolder n).2.flatMap Tick.batches ++ rest.batches, rest.ending,
        m.firstMessage :: ((m.ticked isFolder n).2.flatMap Tick.log ++ rest.log)⟩) := by
  have within : 0 + n ≤ k := (Nat.zero_add n).symm ▸ early
  have sleeps : ∀ received, ((m.ticked isFolder n).1.asleep k (0 + n)).loop isFolder
      (.afterTicks k) fuel (0 + n) received = (after, rest) := by
    rw [Nat.zero_add]
    exact goes
  have whole := loopRuns sound quiet n fuel 0 0 within healthy sleeps
  have same : (m.asleep k 0).firstMessage = m.firstMessage := by
    unfold asleep
    split <;> rfl
  unfold firstMessage at same
  simp only [run, whole, same, firstMessage]

theorem runEndless (sound : m.Sound) (quiet : m.stopRequests = 0) (early : fuel < k)
    (healthy : ∀ t ∈ (m.ticked isFolder fuel).2, t.cut = none) :
    ((m.asleep k 0).run isFolder (.afterTicks k) fuel).2.ending = .endless := by
  have still := (sound.tickedFrame healthy).2.stopRequests.trans quiet
  have whole := runRuns sound quiet fuel 0 (Nat.le_of_lt early) healthy fun received => by
    rw [asleepEarly early]
    exact loopIdle still fuel received
  exact congrArg (·.2.ending) whole

theorem runStops (sound : m.Sound) (quiet : m.stopRequests = 0)
    (healthy : ∀ t ∈ (m.ticked isFolder k).2, t.cut = none) (enough : k ≤ fuel) :
    (m.asleep k 0).run isFolder (.afterTicks k) fuel =
      ((m.ticked isFolder k).1.clear.1, ⟨(m.ticked isFolder k).2.flatMap Tick.batches, .stopped,
        m.firstMessage :: ((m.ticked isFolder k).2.flatMap Tick.log ++
          .stopped :: (m.ticked isFolder k).1.clear.2)⟩) := by
  have still := (sound.tickedFrame healthy).2.stopRequests.trans quiet
  have whole := runRuns sound quiet k (fuel - k) (Nat.le_refl k) healthy fun received => by
    rw [asleepLast]
    exact loopAsked still (fuel - k) k received
  rw [Nat.add_sub_cancel' enough] at whole
  rw [whole, List.append_nil]

theorem runCut (sound : m.Sound) (quiet : m.stopRequests = 0) (within : i < k)
    (healthy : ∀ t ∈ (m.ticked isFolder i).2, t.cut = none) {cut : Cut}
    (failed : ((m.ticked isFolder i).1.tick isFolder).2.cut = some cut) (enough : i < fuel) :
    let last := (m.ticked isFolder i).1.tick isFolder
    (m.asleep k 0).run isFolder (.afterTicks k) fuel =
      (last.1.asleep k (i + 1), ⟨(m.ticked isFolder i).2.flatMap Tick.batches ++ last.2.batches,
        cut.ending, m.firstMessage :: ((m.ticked isFolder i).2.flatMap Tick.log ++
          (last.2.log ++ cut.farewell))⟩) := by
  have still := (sound.tickedFrame healthy).2.stopRequests.trans quiet
  have whole := runRuns sound quiet i (fuel - (i + 1) + 1) (Nat.le_of_lt within) healthy
    fun received => by
      rw [asleepEarly within]
      exact loopCut still failed
  have fuelSame : i + (fuel - (i + 1) + 1) = fuel := by omega
  rwa [fuelSame] at whole

end Runs

theorem tickedHealthy {a b : Nat} (fewer : a ≤ b)
    (healthy : ∀ t ∈ (m.ticked isFolder b).2, t.cut = none) :
    ∀ t ∈ (m.ticked isFolder a).2, t.cut = none := by
  intro t member
  have split := tickedAdd isFolder m a (b - a)
  rw [Nat.add_sub_cancel' fewer] at split
  rw [split] at healthy
  exact healthy t (List.mem_append_left _ member)

/-- A run asked to stop after so many ticks. It takes the fuel of exactly these, hands on what they
hand on and lets everything go. If one of them fails, it is the last, and nothing is let go, but every
read is still under way; one that does not come back takes the run with it. -/
theorem runIsItsTicks (reached : Reachable m) (quiet : m.stopRequests = 0)
    (isFolder : String → Bool) (k : Nat) :
    let run := (m.asleep k 0).run isFolder (.afterTicks k)
    let ended := m.ticked isFolder k
    ((∀ t ∈ ended.2, t.cut = none) →
      (∀ fuel, fuel < k → (run fuel).2.ending = .endless) ∧
      ∀ fuel, k ≤ fuel →
        run fuel = (ended.1.clear.1, ⟨ended.2.flatMap Tick.batches, .stopped,
          m.firstMessage :: (ended.2.flatMap Tick.log ++ .stopped :: ended.1.clear.2)⟩) ∧
        (run fuel).1.registry = [] ∧ (run fuel).1.source.live = [] ∧
        (run fuel).1.source.cancels = m.source.cancels + ended.1.registry.length) ∧
    (∀ i cut,
      let before := m.ticked isFolder i
      let last := before.1.tick isFolder
      i < k → (∀ t ∈ before.2, t.cut = none) → last.2.cut = some cut →
      (∀ fuel, fuel ≤ i → (run fuel).2.ending = .endless) ∧
      ∀ fuel, i < fuel →
        (run fuel).2.batches = before.2.flatMap Tick.batches ++ last.2.batches ∧
        (run fuel).1.registry = last.1.registry ∧ (run fuel).1.source = last.1.source ∧
        (∀ fault, cut = .fault fault → (run fuel).2.ending = .failed fault ∧
          (run fuel).2.log =
            m.firstMessage :: (before.2.flatMap Tick.log ++ (last.2.log ++ [.stoppedBy fault])) ∧
          ∀ f s, (f, s) ∈ last.1.registry → s.outstanding = true ∧ s.request.inFlight = true) ∧
        ∀ panic, cut = .panic panic → (run fuel).2.ending = .unwound panic ∧
          (run fuel).2.log = m.firstMessage :: (before.2.flatMap Tick.log ++ last.2.log)) ∧
    (k = 0 → ∀ fuel, (run fuel).2.batches = [] ∧ (run fuel).1.source.next = m.source.next ∧
      ∀ f, (run fuel).1.source.script f = m.source.script f) := by
  intro run ended
  have sound := reached.sound
  refine ⟨fun healthy => ⟨fun fuel early => ?_, fun fuel enough => ?_⟩, ?_, ?_⟩
  · exact runEndless sound quiet early (tickedHealthy (Nat.le_of_lt early) healthy)
  · obtain ⟨soundAfter, frame⟩ := sound.tickedFrame healthy
    have whole : run fuel = _ := runStops sound quiet healthy enough
    rw [whole]
    refine ⟨rfl, rfl, ?_, ?_⟩
    · rw [soundAfter.clearSource]
    · rw [soundAfter.clearSource, ← frame.cancels]
  · intro i cut before last within healthy failed
    refine ⟨fun fuel early => ?_, fun fuel enough => ?_⟩
    · exact runEndless sound quiet (Nat.lt_of_le_of_lt early within) (tickedHealthy early healthy)
    · have whole : run fuel = _ := runCut sound quiet within healthy failed enough
      rw [whole]
      refine ⟨rfl, ?_, ?_, ?_, ?_⟩
      · unfold asleep
        split <;> rfl
      · unfold asleep
        split <;> rfl
      · rintro fault rfl
        have soundLast := (sound.tickedFrame healthy).1.ticked (Tick.returnsFault failed)
        exact ⟨rfl, rfl, fun f s inside =>
          ⟨(soundLast.armed f s inside).waiting, (soundLast.armed f s inside).inFlight⟩⟩
      · rintro panic rfl
        exact ⟨rfl, by rw [Cut.farewell, List.append_nil]⟩
  · rintro rfl fuel
    have whole : run fuel = _ :=
      runStops sound quiet (fun t member => nomatch member) (Nat.zero_le fuel)
    have source : (run fuel).1.source = _ :=
      (congrArg (·.1.source) whole).trans sound.clearSource
    rw [source]
    exact ⟨congrArg (·.2.batches) whole, rfl, fun _ => rfl⟩

theorem stoppedAndStruckRuns :
    let d := Folder.ofText "d"
    let made : Monitor := ⟨.default, [d, Folder.ofText "e"], .empty, [], .fresh, 0⟩
    let m := (made.edit (.push d .pending)).edit (.push d .overflow)
    let struck := m.edit (.failResets true)
    let fault : Fault := .noReset "d" Source.invalidHandle
    create .fresh made.folders .default = .ok made ∧
      (∀ t ∈ (m.ticked (fun _ => false) 3).2, t.cut = none) ∧
      ((m.asleep 3 0).run (fun _ => false) (.afterTicks 3) 3).2.ending = .stopped ∧
      ((m.asleep 3 0).run (fun _ => false) (.afterTicks 3) 3).1.source.cancels =
        m.source.cancels + 2 ∧
      (∀ t ∈ (struck.ticked (fun _ => false) 1).2, t.cut = none) ∧
      ((struck.ticked (fun _ => false) 1).1.tick fun _ => false).2.cut = some (.fault fault) ∧
      ((struck.asleep 3 0).run (fun _ => false) (.afterTicks 3) 1).2.ending = .endless ∧
      ((struck.asleep 3 0).run (fun _ => false) (.afterTicks 3) 2).2.ending = .failed fault := by
  intro d made m struck fault
  have created : create .fresh made.folders .default = .ok made := rfl
  have reached : Reachable m := ((Reachable.created created).edited _).edited _
  have healthy : ∀ t ∈ (m.ticked (fun _ => false) 3).2, t.cut = none := by decide
  have before : ∀ t ∈ (struck.ticked (fun _ => false) 1).2, t.cut = none := by decide
  have failed : ((struck.ticked (fun _ => false) 1).1.tick fun _ => false).2.cut =
      some (.fault fault) := by decide
  have both : (m.ticked (fun _ => false) 3).1.registry.length = 2 := by decide
  obtain ⟨stops, -, -⟩ := runIsItsTicks reached rfl (fun _ => false) 3
  obtain ⟨whole, -, -, cancels⟩ := (stops healthy).2 3 (Nat.le_refl 3)
  obtain ⟨-, fails, -⟩ := runIsItsTicks (reached.edited (.failResets true)) rfl (fun _ => false) 3
  obtain ⟨endless, stopped⟩ := fails 1 (.fault fault) (by decide) before failed
  obtain ⟨-, -, -, faulty, -⟩ := stopped 2 (by decide)
  exact ⟨created, healthy, congrArg (·.2.ending) whole, both ▸ cancels, before, failed,
    endless 1 (Nat.le_refl 1), (faulty fault rfl).1⟩

/-- The one tick of this run does not fail, and yet the run does not come to its stop: the session is
still there, with both of its handles open and its read not called back. -/
theorem unwoundRunLetsNothingGo :
    let a := Folder.ofText "a"
    let settings := { Settings.default with exclude := ["x"] }
    let line : Exclude.Rule := ⟨.leading :: "x".toList.map .literal, false, false⟩
    let made : Monitor := ⟨settings, [a], ⟨[a], [line], false⟩, [], .fresh, 0⟩
    let m := made.edit (.push a (.records (Draft.push .empty 1 "a//b").finish.1))
    let run := (m.asleep 1 0).run (fun _ => false) (.afterTicks 1) 1
    let panic : Panic := ⟨"path is expected to be under the root"⟩
    Reachable m ∧ m.stopRequests = 0 ∧
      (m.ticked (fun _ => false) 1).2.map Tick.cut = [some (.panic panic)] ∧
      run.2.ending = .unwound panic ∧ run.1.registry.length = 1 ∧
      run.1.source.live.length = 2 ∧ run.1.source.cancels = 0 := by
  intro a settings line made m run panic
  have created : create .fresh [a] settings = .ok made := by
    dsimp only [made, line, settings]
    rfl
  exact ⟨(Reachable.created created).edited _, rfl, by decide +kernel, by decide +kernel,
    by decide +kernel, by decide +kernel, by decide +kernel⟩

end Monitor
end FolderWatch
