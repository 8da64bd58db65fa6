import FolderWatch.Table
/-! Owners of handles. An owner closes what it holds when it goes away or gets something else,
and holds nothing afterwards, so a handle that is taken once is closed at most once. -/
namespace FolderWatch

/-- A kind of handle: the value of an owner that holds nothing, and which values are handles. -/
structure HandleKind (α : Type) where
  nothing : α
  isHandle : α → Bool

/-- Named owners, and every handle closed so far, oldest first. -/
structure Owners (α : Type) where
  held : Table String α
  closed : List α
  deriving DecidableEq, Repr

inductive OwnerStep (α : Type)
  | take (owner : String) (raw : α)
  | hollow (owner : String)
  /-- An owner gets what another one held, who goes away. -/
  | replace (owner other : String)
  | move (owner target : String)
  /-- An owner goes away and leaves its value open. -/
  | giveUp (owner : String)
  | drop (owner : String)
  deriving DecidableEq, Repr

namespace Owners

variable {α : Type}

def empty : Owners α := ⟨[], []⟩

def close (kind : HandleKind α) (o : Owners α) (raw : α) : Owners α :=
  if kind.isHandle raw then { o with closed := o.closed ++ [raw] } else o

def put (kind : HandleKind α) (o : Owners α) (owner : String) (raw : α) : Owners α :=
  let placed := { o with held := o.held.set owner raw }
  match o.held.get? owner with
  | some old => placed.close kind old
  | none => placed

def remove (o : Owners α) (owner : String) : Option α × Owners α :=
  (o.held.get? owner, { o with held := o.held.erase owner })

def drop (kind : HandleKind α) (o : Owners α) (owner : String) : Owners α :=
  match o.remove owner with
  | (some raw, o) => o.close kind raw
  | (none, o) => o

/- The other owner is taken first, so an owner that replaces itself is gone. -/
def step (kind : HandleKind α) (o : Owners α) : OwnerStep α → Owners α
  | .take owner raw => o.put kind owner raw
  | .hollow owner => o.put kind owner kind.nothing
  | .replace owner other =>
      let (taken, o) := o.remove other
      let raw := taken.getD kind.nothing
      match o.held.get? owner with
      | some _ => o.put kind owner raw
      | none => o.close kind raw
  | .move owner target =>
      match o.remove owner with
      | (some raw, o) => o.put kind target raw
      | (none, o) => o
  | .giveUp owner => (o.remove owner).2
  | .drop owner => o.drop kind owner

def given (o : Owners α) : OwnerStep α → Option α
  | .giveUp owner => o.held.get? owner
  | _ => none

def run (kind : HandleKind α) (o : Owners α) (steps : List (OwnerStep α)) : Owners α :=
  steps.foldl (step kind) o

def dropAll (kind : HandleKind α) (o : Owners α) : Owners α :=
  (o.held.keys.mergeSort (fun a b => decide (a ≤ b))).foldl (drop kind) o

end Owners
end FolderWatch
