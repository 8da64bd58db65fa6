import FolderWatch.Exclude.Filter
import FolderWatch.Registry
/-! The watch over all folders. A tick visits every folder once, in order: it opens a missing
session, looks at the read, hands on what is not excluded, and evicts what failed. A visit may give
up on the way, and with it the tick. -/
namespace FolderWatch

structure Monitor where
  settings : Settings
  folders : List Folder
  filter : Exclude.Filter
  registry : Registry
  source : Source
  stopRequests : Nat

inductive Finding
  | pending
  | changes (delivered : List Event) (excluded : Nat)
  | overflow
  | tooSmall
  | failed
  deriving DecidableEq, Repr

/-- A visit: whether it opened a session, what it found, none if the folder could not be
opened, and whether the session was evicted in the end. -/
structure Visit where
  folder : Folder
  opened : Bool
  finding : Option Finding
  evicted : Bool
  deriving DecidableEq, Repr

structure TickStats where
  initialized : Nat
  initFailures : Nat
  pending : Nat
  delivered : Nat
  excluded : Nat
  overflows : Nat
  tooSmall : Nat
  evicted : Nat
  deriving DecidableEq, Repr

namespace Visit

def batch? (v : Visit) : Option (List Event) :=
  match v.finding with
  | some (.changes (e :: es) _) => some (e :: es)
  | _ => none

end Visit

namespace TickStats

def zero : TickStats := ⟨0, 0, 0, 0, 0, 0, 0, 0⟩

def addFinding (t : TickStats) : Option Finding → TickStats
  | none => { t with initFailures := t.initFailures + 1 }
  | some .pending => { t with pending := t.pending + 1 }
  | some (.changes es n) =>
      { t with delivered := t.delivered + es.length, excluded := t.excluded + n }
  | some .overflow => { t with overflows := t.overflows + 1 }
  | some .tooSmall => { t with tooSmall := t.tooSmall + 1 }
  | some .failed => t

def addOpened (t : TickStats) (opened : Bool) : TickStats :=
  if opened then { t with initialized := t.initialized + 1 } else t

def addEvicted (t : TickStats) (evicted : Bool) : TickStats :=
  if evicted then { t with evicted := t.evicted + 1 } else t

def add (t : TickStats) (v : Visit) : TickStats :=
  ((t.addOpened v.opened).addFinding v.finding).addEvicted v.evicted

def ofVisits (vs : List Visit) : TickStats := vs.foldl add zero

end TickStats

/-- What cuts a tick short: a fault, which the caller is told, or a panic, from which the tick does
not come back. -/
inductive Cut
  | fault (e : Fault)
  | panic (p : Panic)
  deriving DecidableEq, Repr

def Cut.returns : Cut → Bool
  | .fault _ => true
  | .panic _ => false

/-- A tick: the visits that came to their end, and what cut it short, if anything did. -/
structure Tick where
  visits : List Visit
  cut : Option Cut
  log : List Message
  deriving DecidableEq, Repr

namespace Tick

def batches (t : Tick) : List (List Event) := t.visits.filterMap Visit.batch?

def stats (t : Tick) : Except Cut TickStats :=
  match t.cut with
  | some cut => .error cut
  | none => .ok (.ofVisits t.visits)

def returns (t : Tick) : Bool := t.cut.all Cut.returns

end Tick

namespace Monitor

def distinct (fs : List Folder) : List Folder :=
  fs.foldl (fun seen f => if seen.contains f then seen else seen ++ [f]) []

/-- A monitor over usable settings; a folder named twice is watched once. Nothing is opened
before the first tick. -/
def create (source : Source) (folders : List Folder) (settings : Settings) :
    Except Fault Monitor :=
  match settings.validate with
  | .error fault => .error fault
  | .ok () =>
      let folders := distinct folders
      match Exclude.Filter.ofLines folders settings.exclude with
      | .error flaw => .error (.badSettings flaw)
      | .ok filter => .ok ⟨settings, folders, filter, [], source, 0⟩

def finding (isFolder : String → Bool) (filter : Exclude.Filter) (f : Folder) :
    Option Reading → Except Panic Finding
  | some (.changes es) =>
      (filter.keep isFolder f es).map fun kept => .changes kept (es.length - kept.length)
  | some .overflow => .ok .overflow
  | some .tooSmall => .ok .tooSmall
  | none => .ok .failed

/-- A look at the read of a session. Where the filter gives up, the session stays where it is, its
next read issued or not, and what was read is gone. -/
def attend (isFolder : String → Bool) (m : Monitor) (f : Folder) (opened : Bool) (s : Session) :
    Monitor × Except Cut Visit × List Message :=
  let polled := s.poll m.source
  let (s, outcome) := polled.value
  let drop (log : List Message) : Monitor × List Message :=
    let released := s.release polled.source
    ({ m with registry := Table.erase m.registry f, source := released.source },
      polled.log ++ log ++ released.log)
  match outcome with
  | .error fault =>
      let (m, log) := drop []
      (m, .error (.fault fault), log)
  | .ok p =>
      if p.isPending then
        ({ m with registry := m.registry.insert s, source := polled.source },
          .ok ⟨f, opened, some .pending, false⟩, polled.log)
      else
        match finding isFolder m.filter f p.reading with
        | .error panic =>
            ({ m with registry := m.registry.insert s, source := polled.source },
              .error (.panic panic), polled.log)
        | .ok found =>
            if p.mustEvict then
              let (m, log) := drop [.evicting f]
              (m, .ok ⟨f, opened, some found, true⟩, log)
            else
              ({ m with registry := m.registry.insert s, source := polled.source },
                .ok ⟨f, opened, some found, false⟩, polled.log)

/-- The visit to one folder; a fatal fault or a panic keeps it from coming to its end. -/
def visit (isFolder : String → Bool) (m : Monitor) (f : Folder) :
    Monitor × Except Cut Visit × List Message :=
  match Table.get? m.registry f with
  | some s => m.attend isFolder f false s
  | none =>
      let started := Session.start m.source f m.settings
      match started.value with
      | .error fault =>
          let m := { m with source := started.source }
          if fault.isFatal then
            (m, .error (.fault fault), .preparing f :: started.log ++ [.fatal fault])
          else
            (m, .ok ⟨f, false, none, false⟩, .preparing f :: started.log ++ [.recoverable fault])
      | .ok s =>
          let occupied := (Table.get? m.registry s.folder).isSome
          let m := { m with
            registry := m.registry.insert s
            source := started.source.noteIf occupied .displaced }
          let (m, outcome, log) := m.attend isFolder f true s
          (m, outcome, .preparing f :: started.log ++ log)

def visitAll (isFolder : String → Bool) (m : Monitor) : List Folder → Monitor × Tick
  | [] => (m, ⟨[], none, []⟩)
  | f :: fs =>
      match m.visit isFolder f with
      | (m, .error cut, log) => (m, ⟨[], some cut, log⟩)
      | (m, .ok v, log) =>
          let (m, rest) := visitAll isFolder m fs
          (m, ⟨v :: rest.visits, rest.cut, log ++ rest.log⟩)

def tick (isFolder : String → Bool) (m : Monitor) : Monitor × Tick :=
  m.visitAll isFolder m.folders

def edit (m : Monitor) (e : Source.Edit) : Monitor := { m with source := m.source.edit e }

def requestStop (m : Monitor) : Monitor := { m with stopRequests := m.stopRequests + 1 }

def clear (m : Monitor) : Monitor × List Message :=
  let cleared := m.registry.clear m.source
  ({ m with registry := [], source := cleared.source }, cleared.log)

def debugText (m : Monitor) : String :=
  "DirectoryMonitor \x7b paths: " ++ Settings.listText (m.folders.map Folder.debugText) ++
    ", sessions: " ++ toString m.registry.length ++ ", config: " ++ m.settings.debugText ++ " \x7d"

end Monitor
end FolderWatch
