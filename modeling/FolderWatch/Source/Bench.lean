import FolderWatch.Source.Basic
/-! A source driven by hand: handles, buffers and requests under names of their own. -/
namespace FolderWatch

structure Bench where
  source : Source
  handles : Table String Nat
  buffers : Table String Buffer
  requests : Table String Request
  deriving DecidableEq, Repr

namespace Bench

def empty : Bench := ⟨.fresh, [], [], []⟩

def noHandle : Nat := 0

def handle (b : Bench) (name : String) : Nat := (b.handles.get? name).getD noHandle

def drop (b : Bench) (name : String) : Bench :=
  match b.handles.get? name with
  | some h => { b with source := b.source.close h, handles := b.handles.erase name }
  | none => b

/-- A new handle takes its name first, then the one that had it is closed. -/
def keep (b : Bench) (name : String) (h : Nat) : Bench :=
  let source := match b.handles.get? name with
    | some old => b.source.close old
    | none => b.source
  { b with source := source, handles := b.handles.set name h }

def openFolder (b : Bench) (name : String) (f : Folder) : Option Failure × Bench :=
  match b.source.openFolder f with
  | (.ok h, s) => (none, { b with source := s }.keep name h)
  | (.error e, s) => (some e, { b with source := s })

def createCompletion (b : Bench) (name : String) : Option Failure × Bench :=
  match b.source.createCompletion with
  | (.ok h, s) => (none, { b with source := s }.keep name h)
  | (.error e, s) => (some e, { b with source := s })

def bind (b : Bench) (name completion : String) : Bench :=
  { b with requests := b.requests.set name (Source.bind (b.handle completion)) }

def allocate (b : Bench) (name : String) (size : Nat) : Except Fault Bench :=
  (Buffer.allocate size).map fun x => { b with buffers := b.buffers.set name x }

def issue (b : Bench) (dir request : String) : Option Failure × Bench :=
  match b.requests.get? request with
  | none => (none, b)
  | some r =>
      match b.source.issue (b.handle dir) r with
      | (.ok r, s) => (none, { b with source := s, requests := b.requests.set request r })
      | (.error e, s) => (some e, { b with source := s })

def check (b : Bench) (dir buffer request : String) : Option (Completion × Buffer) × Bench :=
  match b.requests.get? request, b.buffers.get? buffer with
  | some r, some x =>
      let c := b.source.check (b.handle dir) r x
      (some (c.completion, c.buffer),
        { b with
          source := c.source
          requests := b.requests.set request c.request
          buffers := b.buffers.set buffer c.buffer })
  | _, _ => (none, b)

def reset (b : Bench) : Option Failure × Bench :=
  let (e, s) := b.source.reset
  (e, { b with source := s })

def cancel (b : Bench) (request : String) : Bench :=
  match b.requests.get? request with
  | some r =>
      let (r, s) := b.source.cancel r
      { b with source := s, requests := b.requests.set request r }
  | none => b

def edit (b : Bench) (e : Source.Edit) : Bench := { b with source := b.source.edit e }

def dropAll (b : Bench) : Bench := b.handles.keys.foldl drop b

end Bench
end FolderWatch
