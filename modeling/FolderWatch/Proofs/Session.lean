import FolderWatch.Proofs.Monitor.Lane
import FolderWatch.Proofs.Source

/-! What starting a session and looking at its read do, given that every use of the source is a
proper one. The script of the folder goes the way of its lane; the rest is bookkeeping of
handles, requests and buffers. -/
namespace FolderWatch

theorem Buffer.firstWritten {b : Buffer} {bytes : List UInt8} (fits : bytes.length ≤ b.size) :
    (b.write 0 bytes).first bytes.length = bytes := by
  have length : min bytes.length b.size = bytes.length := Nat.min_eq_left fits
  simp only [first, write, length, List.take_zero, Nat.zero_sub, List.replicate_zero,
    List.append_nil, List.nil_append, Nat.zero_add]
  rw [List.take_take, length, List.take_left' rfl]
  simp only [List.length_take, List.length_append]
  rw [show bytes.length - min b.size (bytes.length + (b.written.drop bytes.length).length) = 0 by
    omega]
  simp

theorem Script.rearmFinishes (failResets : Bool) (f : Folder) (x : Script) (r : Reading) :
    (x.rearm failResets f r).2 ≠ .ok .pending := by
  unfold rearm
  split <;> simp [Poll.pending]

namespace Poll

def ends : Except Fault Poll → Bool
  | .error _ => true
  | .ok p => p.mustEvict

end Poll

namespace Session

structure Armed (source : Source) (size : Nat) (s : Session) : Prop where
  known : source.folders.get? s.dir = some s.folder
  waiting : s.outstanding = true
  inFlight : s.request.inFlight = true
  bound : s.request.completion ≠ 0
  sized : s.buffer.size = size

def handles (s : Session) : List Nat := [s.dir, s.completion]

variable {source : Source} {size : Nat} {s : Session}

theorem Armed.kept {f : Folder} {after : Source} (armed : s.Armed source size)
    (kept : source.Kept f after) (given : s.dir < source.next) : s.Armed after size :=
  { armed with known := (kept.folders s.dir given).trans armed.known }

theorem Armed.edited (armed : s.Armed source size) (e : Source.Edit) :
    s.Armed (source.edit e) size :=
  { armed with known := (source.editSame e).1 ▸ armed.known }

theorem issueProper (known : source.folders.get? s.dir = some s.folder)
    (idle : s.request.inFlight = false) (bound : s.request.completion ≠ 0) :
    s.issue source =
      ⟨match ((source.script s.folder).issue s.folder).2 with
        | none => ({ s with request := { s.request with inFlight := true }, outstanding := true }, none)
        | some fault => (s, some fault),
      source.setScript s.folder ((source.script s.folder).issue s.folder).1,
      [.issuing s.folder]⟩ := by
  have unbound : (s.request.completion == 0) = false := by simpa using bound
  cases failures : (source.script s.folder).readFailures <;>
    simp only [issue, Source.issue, known, idle, unbound, Source.noteNothing, Script.issue, failures]

/-- The outcome of starting a session, against the script's own account of it. -/
structure Started (source : Source) (f : Folder) (size : Nat) (account : Script × Option Fault)
    (done : Done (Except Fault Session)) : Prop where
  kept : Source.Kept f source done.source
  script : done.source.script f = account.1
  resets : done.source.resets = source.resets
  numbered : done.source.Numbered
  refused : ∀ fault, account.2 = some fault →
    done.value = .error fault ∧ done.source.live = source.live
  opened : account.2 = none → ∃ s, done.value = .ok s ∧ s.folder = f ∧ s.Armed done.source size ∧
    source.next ≤ s.dir ∧ s.dir < s.completion ∧ s.completion < done.source.next ∧
    done.source.live = source.live ++ s.handles

theorem Started.failed {f : Folder} {fault : Fault} {account : Script × Option Fault}
    {done : Done (Except Fault Session)} (kept : source.Kept f done.source)
    (script : done.source.script f = account.1) (resets : done.source.resets = source.resets)
    (numbered : done.source.Numbered) (failed : account.2 = some fault)
    (value : done.value = .error fault) (live : done.source.live = source.live) :
    Started source f size account done where
  kept := kept
  script := script
  resets := resets
  numbered := numbered
  refused := by
    intro other same
    rw [failed] at same
    cases same
    exact ⟨value, live⟩
  opened := by
    intro same
    rw [failed] at same
    cases same

theorem allocated {size : Nat} (small : size < Buffer.limit - 3) :
    Buffer.allocate size = .ok ⟨size, []⟩ := by
  have padded : ¬ Buffer.limit ≤ (size + 3) / 4 * 4 := by omega
  simp only [Buffer.allocate, padded, if_false]

section Start

variable {f : Folder} {settings : Settings}

theorem startUnopened {n : Nat} (numbered : source.Numbered)
    (failures : (source.script f).openFailures = n + 1) :
    Started source f settings.bufferBytes ((source.script f).start source.failCompletions f)
      (start source f settings) := by
  rw [Script.startRefused failures]
  simp only [start, Source.openFolder, failures]
  exact .failed (Source.keptSetScript _ _ _) (Source.scriptSet _ _ _) rfl
    (numbered.setScript _ _) rfl rfl rfl

theorem startUncompleted (numbered : source.Numbered)
    (small : settings.bufferBytes < Buffer.limit - 3)
    (opens : (source.script f).openFailures = 0) (fails : source.failCompletions = true) :
    Started source f settings.bufferBytes ((source.script f).start source.failCompletions f)
      (start source f settings) := by
  rw [Script.startOpened opens]
  obtain ⟨t, opening, opened, -, script⟩ := Source.openFolderSucceeds opens
  have refused : t.createCompletion = (.error Source.outOfMemory, t) := by
    simp only [Source.createCompletion, opened.kept.failCompletions, fails, if_true]
  simp only [start, opening, allocated small, refused, fails, if_true]
  have live : (t.close source.next).live = source.live := by
    rw [Source.close, opened.live]
    exact Source.closeNew numbered.given
  exact .failed (opened.kept.trans (Source.keptClose _ _ _)) script opened.resets
    ((opened.numbered numbered).close _) rfl rfl live

theorem startBound (numbered : source.Numbered)
    (small : settings.bufferBytes < Buffer.limit - 3)
    (opens : (source.script f).openFailures = 0) (works : source.failCompletions = false) :
    Started source f settings.bufferBytes ((source.script f).start source.failCompletions f)
      (start source f settings) := by
  rw [Script.startOpened opens]
  obtain ⟨t, opening, opened, known, script⟩ := Source.openFolderSucceeds opens
  have stillWorks : t.failCompletions = false := opened.kept.failCompletions.trans works
  obtain ⟨u, creating, created, folders, same⟩ := Source.createCompletionSucceeds f stillWorks
  have kept := opened.kept.trans created.kept
  have resets := created.resets.trans opened.resets
  have numberedLast := created.numbered (opened.numbered numbered)
  have live : u.live = source.live ++ [source.next, t.next] := by
    rw [created.live, opened.live, List.append_assoc, List.singleton_append]
  have bound : t.next ≠ 0 := opened.next ▸ Nat.succ_ne_zero _
  have issued : ∀ s : Session, s.folder = f → s.dir = source.next →
      s.request = Source.bind t.next → s.issue u = _ := fun s folder dir request =>
    issueProper (by rw [folders, dir, folder]; exact known) (by rw [request]; rfl)
      (by rw [request]; exact bound)
  simp only [start, opening, allocated small, creating, works, Bool.false_eq_true, if_false]
  rw [issued _ rfl rfl rfl]
  dsimp only
  rw [same, script]
  cases result : (Script.issue f (source.script f).opened).2 with
  | none =>
    constructor
    case kept => exact kept.trans (Source.keptSetScript _ _ _)
    case script => exact Source.scriptSet _ _ _
    case resets => exact resets
    case numbered => exact numberedLast.setScript _ _
    case refused => intro fault same; rw [result] at same; cases same
    case opened =>
      intro _
      have given : u.folders.get? source.next = some f := folders ▸ known
      have order : source.next < t.next := opened.next ▸ Nat.lt_succ_self _
      have latest : t.next < u.next := created.next ▸ Nat.lt_succ_self _
      exact ⟨_, rfl, rfl, ⟨given, rfl, rfl, bound, rfl⟩, Nat.le_refl _, order, latest, live⟩
  | some fault =>
    simp only [release, Bool.false_eq_true, if_false]
    have order : source.next < t.next := opened.next ▸ Nat.lt_succ_self _
    have both := Source.closeLast numbered.given order
    have closed (x : Script) : source.Kept f (((u.setScript f x).close source.next).close t.next) :=
      ((kept.trans (Source.keptSetScript _ _ _)).trans (Source.keptClose _ _ _)).trans
        (Source.keptClose _ _ _)
    exact .failed (closed _) (Source.scriptSet _ _ _) resets
      (((numberedLast.setScript _ _).close _).close _) result rfl
      (by simpa only [Source.close, Source.setScript, live] using both)

theorem startProper (numbered : source.Numbered)
    (small : settings.bufferBytes < Buffer.limit - 3) :
    Started source f settings.bufferBytes ((source.script f).start source.failCompletions f)
      (start source f settings) := by
  cases failures : (source.script f).openFailures with
  | succ n => exact startUnopened numbered failures
  | zero =>
    cases completions : source.failCompletions with
    | true => exact completions ▸ startUncompleted numbered small failures completions
    | false => exact completions ▸ startBound numbered small failures completions

end Start

structure Ended (source : Source) (size : Nat) (s : Session) : Prop where
  known : source.folders.get? s.dir = some s.folder
  waiting : s.outstanding = false
  idle : s.request.inFlight = false
  bound : s.request.completion ≠ 0
  sized : s.buffer.size = size

structure Turned (source : Source) (size : Nat) (s : Session)
    (account : Script × Except Fault Poll) (done : Done (Session × Except Fault Poll)) : Prop where
  steady : source.Steady s.folder done.source
  script : done.source.script s.folder = account.1
  value : done.value.2 = account.2
  folder : done.value.1.folder = s.folder
  handles : done.value.1.handles = s.handles
  ended : Poll.ends account.2 = true → done.value.1.outstanding = false
  armed : Poll.ends account.2 = false → done.value.1.Armed done.source size
  sized : done.value.1.buffer.size = size
  paired : done.value.1.outstanding = done.value.1.request.inFlight
  waits : account.2 = .ok .pending → done.value.1 = s ∧ done.source.resets = source.resets ∧
    account.1.reads = (source.script s.folder).reads

section Ways

variable {account : Script × Except Fault Poll} {done : Done (Session × Except Fault Poll)}
  (steady : source.Steady s.folder done.source)
  (script : done.source.script s.folder = account.1) (value : done.value.2 = account.2)
  (folder : done.value.1.folder = s.folder) (handles : done.value.1.handles = s.handles)

include steady script value folder handles

theorem Turned.gone (finished : done.value.1.Ended done.source size)
    (ends : Poll.ends account.2 = true) : Turned source size s account done where
  steady := steady
  script := script
  value := value
  folder := folder
  handles := handles
  ended := fun _ => finished.waiting
  armed := fun goesOn => by rw [ends] at goesOn; cases goesOn
  sized := finished.sized
  paired := finished.waiting.trans finished.idle.symm
  waits := fun pending => by rw [pending] at ends; cases ends

theorem Turned.goesOn (armed : done.value.1.Armed done.source size)
    (alive : Poll.ends account.2 = false)
    (waits : account.2 = .ok .pending → done.value.1 = s ∧ done.source.resets = source.resets ∧
      account.1.reads = (source.script s.folder).reads) : Turned source size s account done where
  steady := steady
  script := script
  value := value
  folder := folder
  handles := handles
  ended := fun ends => by rw [alive] at ends; cases ends
  armed := fun _ => armed
  sized := armed.sized
  paired := armed.waiting.trans armed.inFlight.symm
  waits := waits

end Ways

theorem rearmProper (finished : s.Ended source size) (reading : Reading) (log : List Message) :
    Turned source size s
      ((source.script s.folder).rearm source.failResets s.folder reading)
      (s.rearm source reading log) := by
  cases resets : source.failResets with
  | true =>
    simp only [rearm, Source.resetRefused resets, Script.rearm, if_true]
    exact .gone (Source.steadyCounted _ _) rfl rfl rfl rfl { finished with } rfl
  | false =>
    have known : source.counted.folders.get? s.dir = some s.folder := finished.known
    have issued := issueProper known finished.idle finished.bound
    have same : source.counted.script s.folder = source.script s.folder := rfl
    simp only [rearm, Source.resetWorks resets, issued, same, Script.rearm, Bool.false_eq_true, if_false]
    have steady := (Source.steadyCounted source s.folder).trans
      (Source.steadySetScript source.counted s.folder
        ((source.script s.folder).issue s.folder).1)
    cases result : ((source.script s.folder).issue s.folder).2 with
    | none =>
      refine .goesOn steady (Source.scriptSet _ _ _) rfl rfl rfl
        ⟨finished.known, rfl, rfl, finished.bound, finished.sized⟩ rfl fun pending => ?_
      cases pending
    | some fault =>
      exact .gone steady (Source.scriptSet _ _ _) rfl rfl rfl { finished with } rfl

theorem Turned.after {account : Script × Except Fault Poll}
    {done : Done (Session × Except Fault Poll)} {between : Source} {ready : Session}
    (turned : Turned between size ready account done) (folder : ready.folder = s.folder)
    (handles : ready.handles = s.handles) (steady : source.Steady s.folder between)
    (finished : account.2 ≠ .ok .pending) : Turned source size s account done where
  steady := steady.trans (folder ▸ turned.steady)
  script := folder ▸ turned.script
  value := turned.value
  folder := turned.folder.trans folder
  handles := turned.handles.trans handles
  ended := turned.ended
  armed := turned.armed
  sized := turned.sized
  paired := turned.paired
  waits := fun same => absurd same finished

section Poll

variable {t : Source}

theorem rearmAfter (steady : source.Steady s.folder t)
    (script : t.script s.folder = (source.script s.folder).advanced) (reading : Reading)
    (log : List Message) {ready : Session} (folder : ready.folder = s.folder)
    (handles : ready.handles = s.handles) (finished : ready.Ended t size) :
    Turned source size s
      ((source.script s.folder).advanced.rearm source.failResets s.folder reading)
      (ready.rearm t reading log) := by
  have turned := rearmProper finished reading log
  rw [folder, script, steady.kept.failResets] at turned
  exact turned.after folder handles steady (Script.rearmFinishes _ _ _ _)

/-- The records come from the bytes of this read, whatever the buffer held before it. -/
theorem filled {bytes : List UInt8} (fits : bytes.length ≤ s.buffer.size) :
    Outcome.fill s.buffer (.records bytes) = (.ready bytes.length, s.buffer.write 0 bytes) ∧
      (s.buffer.write 0 bytes).first bytes.length = bytes := by
  refine ⟨?_, Buffer.firstWritten fits⟩
  simp only [Outcome.fill, Nat.not_lt.mpr fits, if_false]

theorem pollProper (armed : s.Armed source size) (given : s.dir < source.next) :
    Turned source size s
      ((source.script s.folder).poll size source.failResets s.folder) (s.poll source) := by
  obtain ⟨t, popped, steady, script, resets⟩ := source.popHead s.folder
  have known : t.folders.get? s.dir = some s.folder :=
    (steady.kept.folders s.dir given).trans armed.known
  simp only [poll, armed.waiting, Bool.not_true, Source.noteNothing, Source.check, armed.known,
    popped, Script.poll]
  cases next : (source.script s.folder).outcomes.headD .pending with
  | pending =>
    simp only [Outcome.fill, Outcome.reading?, if_true]
    exact .goesOn steady script rfl rfl rfl
      ⟨known, rfl, armed.inFlight, armed.bound, armed.sized⟩ rfl
      fun _ => ⟨by rw [← armed.waiting], resets, rfl⟩
  | failure kind =>
    simp only [Outcome.fill]
    exact .gone steady script rfl rfl rfl ⟨known, rfl, rfl, armed.bound, armed.sized⟩ rfl
  | overflow =>
    exact rearmAfter steady script _ _ rfl rfl ⟨known, rfl, rfl, armed.bound, armed.sized⟩
  | nothing =>
    exact rearmAfter steady script _ _ rfl rfl ⟨known, rfl, rfl, armed.bound, armed.sized⟩
  | records bytes =>
    by_cases large : s.buffer.size < bytes.length
    · have unread : ¬ (0 < bytes.length ∧ bytes.length ≤ size) := by
        have sized := armed.sized
        omega
      simp only [Outcome.fill, large, Outcome.reading?, unread, if_true, if_false]
      exact rearmAfter steady script _ _ rfl rfl ⟨known, rfl, rfl, armed.bound, armed.sized⟩
    · have fits : bytes.length ≤ s.buffer.size := Nat.le_of_not_lt large
      obtain ⟨answer, own⟩ := filled fits
      simp only [answer]
      cases length : bytes.length with
      | zero =>
        simp only [Outcome.reading?, length, Nat.lt_irrefl, false_and, if_false]
        exact rearmAfter steady script _ _ rfl rfl ⟨known, rfl, rfl, armed.bound, armed.sized⟩
      | succ n =>
        rw [length] at own fits
        have read : 0 < n + 1 ∧ n + 1 ≤ size := ⟨Nat.succ_pos n, armed.sized ▸ fits⟩
        simp only [Outcome.reading?, length, read, decode, own, if_true, and_self]
        exact rearmAfter steady script _ _ rfl rfl ⟨known, rfl, rfl, armed.bound, armed.sized⟩

end Poll

end Session
end FolderWatch
