import FolderWatch.Proofs.Session

/-! What a session promises to those who look at its read, from its start to its release, however
the script is edited in between. -/
namespace FolderWatch

namespace Session

/-- A session and its source after a start, edits of the script, and looks at the read, none of them
at a session that waits for no read. -/
inductive Lived (before : Source) (f : Folder) (settings : Settings) : Session → Source → Prop
  | started {s : Session} (opened : (start before f settings).value = .ok s) :
      Lived before f settings s (start before f settings).source
  | edited {s : Session} {source : Source} (lived : Lived before f settings s source)
      (e : Source.Edit) : Lived before f settings s (source.edit e)
  | polled {s : Session} {source : Source} (lived : Lived before f settings s source)
      (waiting : s.outstanding = true) :
      Lived before f settings (s.poll source).value.1 (s.poll source).source

/-- What lasts from the start of a session to its release. -/
structure Standing (before : Source) (f : Folder) (size : Nat) (s : Session) (source : Source) :
    Prop where
  folder : s.folder = f
  sized : s.buffer.size = size
  paired : s.outstanding = s.request.inFlight
  armed : s.outstanding = true → s.Armed source size
  given : s.dir < source.next
  order : s.dir < s.completion
  older : ∀ h ∈ before.live, h < s.dir
  live : source.live = before.live ++ s.handles

variable {before source : Source} {f : Folder} {settings : Settings} {size : Nat} {s : Session}

theorem startAllocates (opened : (start before f settings).value = .ok s) :
    settings.bufferBytes < Buffer.limit - 3 := by
  by_cases large : Buffer.limit ≤ (settings.bufferBytes + 3) / 4 * 4
  · have refused : Buffer.allocate settings.bufferBytes =
        .error (.noBuffer settings.bufferBytes) := if_pos large
    unfold start at opened
    split at opened
    · cases opened
    · rw [refused] at opened
      cases opened
  · have limit : Buffer.limit = 2 ^ 47 := by decide
    omega

theorem startStands (numbered : before.Numbered)
    (opened : (start before f settings).value = .ok s) :
    Standing before f settings.bufferBytes s (start before f settings).source := by
  have started := startProper (f := f) numbered (startAllocates opened)
  cases outcome : ((before.script f).start before.failCompletions f).2 with
  | some fault =>
    obtain ⟨refused, -⟩ := started.refused fault outcome
    rw [opened] at refused
    cases refused
  | none =>
    obtain ⟨t, same, folder, armed, dir, order, latest, live⟩ := started.opened outcome
    cases opened.symm.trans same
    have older : ∀ h ∈ before.live, h < s.dir := fun h inside =>
      Nat.lt_of_lt_of_le (numbered.given h inside) dir
    exact ⟨folder, armed.sized, armed.waiting.trans armed.inFlight.symm, fun _ => armed,
      Nat.lt_trans order latest, order, older, live⟩

theorem Standing.edited (standing : Standing before f size s source) (e : Source.Edit) :
    Standing before f size s (source.edit e) := by
  obtain ⟨-, live, next, -, -⟩ := source.editSame e
  exact { standing with
    armed := fun waiting => (standing.armed waiting).edited e
    given := next ▸ standing.given
    live := live.trans standing.live }

theorem Standing.polled (standing : Standing before f size s source)
    (waiting : s.outstanding = true) :
    Standing before f size (s.poll source).value.1 (s.poll source).source := by
  have turned := pollProper (standing.armed waiting) standing.given
  obtain ⟨dir, completion⟩ : (s.poll source).value.1.dir = s.dir ∧
      (s.poll source).value.1.completion = s.completion := by
    simpa only [handles, List.cons.injEq, and_true] using turned.handles
  constructor
  case folder => exact turned.folder.trans standing.folder
  case sized => exact turned.sized
  case paired => exact turned.paired
  case armed =>
    intro still
    cases ends : Poll.ends ((source.script s.folder).poll size source.failResets s.folder).2 with
    | true =>
      rw [turned.ended ends] at still
      cases still
    | false => exact turned.armed ends
  case given => rw [dir, turned.steady.next]; exact standing.given
  case order => rw [dir, completion]; exact standing.order
  case older => rw [dir]; exact standing.older
  case live => rw [turned.steady.live, turned.handles]; exact standing.live

theorem Lived.standing (numbered : before.Numbered) (lived : Lived before f settings s source) :
    Standing before f settings.bufferBytes s source := by
  induction lived with
  | started opened => exact startStands numbered opened
  | edited _ e ih => exact ih.edited e
  | polled _ waiting ih => exact ih.polled waiting

structure PollContract (s : Session) (source : Source)
    (done : Done (Session × Except Fault Poll)) : Prop where
  paired : done.value.1.outstanding = done.value.1.request.inFlight
  goesOn : done.value.1.outstanding = true ↔ ∃ p, done.value.2 = .ok p ∧ p.failure = none
  fatal : ∀ fault, done.value.2 = .error fault →
    fault.reach = .everything ∧ ∃ cause, fault = .noReset s.folder.text cause
  failure : ∀ p fault, done.value.2 = .ok p → p.failure = some fault →
    fault.reach = .oneFolder ∧
      ((∃ cause, fault = .notIssued s.folder.text cause) ∧ p.reading ≠ none ∨
        (∃ cause, fault = .notCompleted s.folder.text cause) ∧ p.reading = none)
  pending : ∀ p, done.value.2 = .ok p → p.isPending = true → done.value.1 = s ∧
    (∀ g, (done.source.script g).reads = (source.script g).reads) ∧
      done.source.resets = source.resets

theorem goesOnIff {answer : Except Fault Poll} :
    Poll.ends answer = false ↔ ∃ p, answer = .ok p ∧ p.failure = none := by
  cases answer with
  | error fault => simp [Poll.ends]
  | ok p => simp [Poll.ends, Poll.mustEvict]

theorem pollContract (armed : s.Armed source size) (given : s.dir < source.next) :
    PollContract s source (s.poll source) := by
  have turned := pollProper armed given
  have answers := (source.script s.folder).pollAnswers size source.failResets s.folder
  rw [← turned.value] at answers
  constructor
  case paired => exact turned.paired
  case goesOn =>
    rw [← goesOnIff, turned.value]
    cases ends : Poll.ends ((source.script s.folder).poll size source.failResets s.folder).2 with
    | true => simp [turned.ended ends]
    | false => simp [(turned.armed ends).waiting]
  case fatal =>
    intro fault failed
    rw [failed] at answers
    cases answers with
    | noReset _ => exact ⟨rfl, _, rfl⟩
  case failure =>
    intro p fault ended failed
    rw [ended] at answers
    cases answers with
    | waits => cases failed
    | rearmed r => cases failed
    | notCompleted cause =>
      cases failed
      exact ⟨rfl, .inr ⟨⟨cause, rfl⟩, rfl⟩⟩
    | notIssued r =>
      cases failed
      exact ⟨rfl, .inl ⟨⟨_, rfl⟩, Option.some_ne_none r⟩⟩
  case pending =>
    intro p ended pending
    cases p.pendingIff.mp pending
    obtain ⟨same, resets, reads⟩ := turned.waits (turned.value.symm.trans ended)
    refine ⟨same, fun g => ?_, resets⟩
    by_cases own : g = s.folder
    · rw [own, turned.script]
      exact reads
    · rw [turned.steady.kept.scripts g own]

theorem Standing.released (standing : Standing before f size s source) :
    (s.release source).source.live = before.live ∧
      (s.release source).source.cancels = source.cancels + s.outstanding.toNat := by
  have live : (source.live.filter (· != s.dir)).filter (· != s.completion) = before.live := by
    rw [standing.live]
    exact Source.closeLast standing.older standing.order
  have paired := standing.paired
  cases waiting : s.outstanding with
  | true =>
    rw [waiting] at paired
    simp only [release, waiting, if_true, Source.cancel, ← paired, Source.close, live,
      Bool.toNat_true, and_self]
  | false =>
    simp only [release, waiting, Bool.false_eq_true, if_false, Source.close, live,
      Bool.toNat_false, Nat.add_zero, and_self]

theorem sessionKeepsContract (used : before.Used) (lived : Lived before f settings s source) :
    s.folder = f ∧ s.buffer.size = settings.bufferBytes ∧
    s.outstanding = s.request.inFlight ∧
    (s.outstanding = true → PollContract s source (s.poll source)) ∧
    source.live = before.live ++ [s.dir, s.completion] ∧ s.dir ≠ s.completion ∧
    (s.release source).source.live = before.live ∧
    (s.release source).source.cancels = source.cancels + if s.outstanding then 1 else 0 := by
  have standing := lived.standing used.numbered
  obtain ⟨closed, cancelled⟩ := standing.released
  refine ⟨standing.folder, standing.sized, standing.paired, ?_, standing.live,
    Nat.ne_of_lt standing.order, closed, ?_⟩
  · exact fun waiting => pollContract (standing.armed waiting) standing.given
  · rw [cancelled]
    cases s.outstanding <;> rfl

theorem contractWithoutNextRead :
    let d := Folder.ofText "d"
    let before := Source.fresh.edit (.push d .overflow)
    let s : Session := ⟨d, 1, 2, ⟨2, true⟩, ⟨2048, []⟩, true, 0⟩
    let source := (start before d .default).source.edit (.failReads d 1)
    (start before d .default).value = .ok s ∧ PollContract s source (s.poll source) ∧
      (s.release source).source.cancels = 1 ∧ (s.poll source).value.1.outstanding = false ∧
      ((s.poll source).value.1.release (s.poll source).source).source.cancels = 0 ∧
      ((s.poll source).value.1.release (s.poll source).source).source.live = [] := by
  intro d before s source
  have used : before.Used := .edited .fresh _
  have opened : (start before d .default).value = .ok s := rfl
  have lived : Lived before d .default s source := (Lived.started opened).edited _
  obtain ⟨-, -, -, contract, -, -, -, cancels⟩ := sessionKeepsContract used lived
  obtain ⟨-, -, -, -, -, -, live, cancelled⟩ := sessionKeepsContract used (lived.polled rfl)
  have idle : (s.poll source).value.1.outstanding = false := by decide
  have none : (s.poll source).source.cancels = 0 := by decide
  have one : source.cancels = 0 := by decide
  rw [one] at cancels
  rw [idle, none] at cancelled
  exact ⟨opened, contract rfl, cancels, idle, cancelled, live⟩

end Session
end FolderWatch
