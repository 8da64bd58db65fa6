import FolderWatch.Buffer
import FolderWatch.Folder
import FolderWatch.Table
/-! A source of changes that follows a script. Opens, reads and their results are laid down
for every folder in advance; every handle is counted until it is closed. -/
namespace FolderWatch

inductive Outcome
  | pending
  | records (bytes : List UInt8)
  | nothing
  | overflow
  | failure (kind : FailureKind)
  deriving DecidableEq, Repr

structure Script where
  openFailures : Nat
  readFailures : Nat
  outcomes : List Outcome
  opens : Nat
  reads : Nat
  deriving DecidableEq, Repr

def Script.blank : Script := ⟨0, 0, [], 0, 0⟩

structure Request where
  completion : Nat
  inFlight : Bool
  deriving DecidableEq, Repr

inductive Completion
  | pending
  | ready (bytes : Nat)
  | overflow
  | failed (cause : Failure)
  deriving DecidableEq, Repr

/-- What an outcome does to the buffer: records that do not fit leave it alone and count as
no bytes at all. -/
def Outcome.fill (b : Buffer) : Outcome → Completion × Buffer
  | .pending => (.pending, b)
  | .records bytes =>
      if b.size < bytes.length then (.ready 0, b) else (.ready bytes.length, b.write 0 bytes)
  | .nothing => (.ready 0, b)
  | .overflow => (.overflow, b)
  | .failure kind => (.failed ⟨kind, "scripted completion failure"⟩, b)

/-- Uses that a source and the sessions over it are not made for: a number that is no folder's, a
read asked for while one is under way or with no completion to signal, a look at a session that
waits for no read, a session put in the place of another. -/
inductive Breach
  | unknownFolder
  | underWay
  | unbound
  | idle
  | displaced
  deriving DecidableEq, Repr

/-- Handles are numbers, given out once; `folders` says which of them are folders. A breach
changes no answer and is only noted. -/
structure Source where
  scripts : Table Folder Script
  failCompletions : Bool
  failResets : Bool
  folders : Table Nat Folder
  next : Nat
  live : List Nat
  resets : Nat
  cancels : Nat
  breaches : List Breach
  deriving DecidableEq, Repr

namespace Source

def fresh : Source := ⟨[], false, false, [], 1, [], 0, 0, []⟩

def noteIf (s : Source) (broken : Bool) (b : Breach) : Source :=
  if broken then { s with breaches := s.breaches ++ [b] } else s

def script (s : Source) (f : Folder) : Script := (s.scripts.get? f).getD .blank

def setScript (s : Source) (f : Folder) (x : Script) : Source :=
  { s with scripts := s.scripts.set f x }

def pathMissing : Failure := ⟨.notFound, "The system cannot find the path specified."⟩
def accessDenied : Failure := ⟨.permissionDenied, "Access is denied."⟩
def outOfMemory : Failure :=
  ⟨.outOfMemory, "Not enough memory resources are available to process this command."⟩
def invalidHandle : Failure := ⟨.invalidInput, "The handle is invalid."⟩
def unknownFolder : Failure := ⟨.invalidInput, "unknown directory handle"⟩

def newHandle (s : Source) : Nat × Source :=
  (s.next, { s with next := s.next + 1, live := s.live ++ [s.next] })

def openFolder (s : Source) (f : Folder) : Except Failure Nat × Source :=
  let x := s.script f
  match x.openFailures with
  | n + 1 => (.error pathMissing, s.setScript f { x with openFailures := n })
  | 0 =>
      let (h, s) := s.newHandle
      let s := { s with folders := s.folders.set h f }
      (.ok h, s.setScript f { x with opens := x.opens + 1 })

def createCompletion (s : Source) : Except Failure Nat × Source :=
  if s.failCompletions then (.error outOfMemory, s)
  else
    let (h, s) := s.newHandle
    (.ok h, s)

def bind (completion : Nat) : Request := ⟨completion, false⟩

def issue (s : Source) (dir : Nat) (r : Request) : Except Failure Request × Source :=
  match s.folders.get? dir with
  | none => (.error unknownFolder, s.noteIf true .unknownFolder)
  | some f =>
      let s := (s.noteIf r.inFlight .underWay).noteIf (r.completion == 0) .unbound
      let x := s.script f
      match x.readFailures with
      | n + 1 => (.error accessDenied, s.setScript f { x with readFailures := n })
      | 0 =>
          (.ok { r with inFlight := true }, s.setScript f { x with reads := x.reads + 1 })

/-- The next outcome laid down for a folder; nothing more means still under way. -/
def pop (s : Source) (f : Folder) : Outcome × Source :=
  let x := s.script f
  match x.outcomes with
  | o :: rest => (o, s.setScript f { x with outcomes := rest })
  | [] => (.pending, s)

structure Checked where
  completion : Completion
  request : Request
  buffer : Buffer
  source : Source
  deriving DecidableEq, Repr

def check (s : Source) (dir : Nat) (r : Request) (b : Buffer) : Checked :=
  match s.folders.get? dir with
  | none => ⟨.failed unknownFolder, r, b, s.noteIf true .unknownFolder⟩
  | some f =>
      let (o, s) := s.pop f
      let (c, b) := o.fill b
      ⟨c, if c = .pending then r else { r with inFlight := false }, b, s⟩

def reset (s : Source) : Option Failure × Source :=
  (if s.failResets then some invalidHandle else none, { s with resets := s.resets + 1 })

def cancel (s : Source) (r : Request) : Request × Source :=
  if r.inFlight then ({ r with inFlight := false }, { s with cancels := s.cancels + 1 })
  else (r, s)

def close (s : Source) (h : Nat) : Source := { s with live := s.live.filter (· != h) }

inductive Edit
  | push (folder : Folder) (outcome : Outcome)
  | failOpens (folder : Folder) (count : Nat)
  | failReads (folder : Folder) (count : Nat)
  | failCompletions (fail : Bool)
  | failResets (fail : Bool)
  deriving DecidableEq, Repr

def edit (s : Source) : Edit → Source
  | .push f o =>
      let x := s.script f
      s.setScript f { x with outcomes := x.outcomes ++ [o] }
  | .failOpens f n =>
      let x := s.script f
      s.setScript f { x with openFailures := x.openFailures + n }
  | .failReads f n =>
      let x := s.script f
      s.setScript f { x with readFailures := x.readFailures + n }
  | .failCompletions b => { s with failCompletions := b }
  | .failResets b => { s with failResets := b }

def remaining (s : Source) : Nat :=
  s.scripts.values.foldl (fun n x => n + x.openFailures + x.readFailures + x.outcomes.length) 0

end Source
end FolderWatch
