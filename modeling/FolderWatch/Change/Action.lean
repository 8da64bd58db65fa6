import FolderWatch.Change.Flag
/-! The action codes of notification records and the flags each of them means. -/
namespace FolderWatch

inductive Action
  | added
  | removed
  | modified
  | renamedOldName
  | renamedNewName
  deriving DecidableEq, Repr

namespace Action

def all : List Action := [added, removed, modified, renamedOldName, renamedNewName]

def code : Action → UInt32
  | added => 1
  | removed => 2
  | modified => 3
  | renamedOldName => 4
  | renamedNewName => 5

def name : Action → String
  | added => "Added"
  | removed => "Removed"
  | modified => "Modified"
  | renamedOldName => "RenamedOldName"
  | renamedNewName => "RenamedNewName"

def ofCode? (c : UInt32) : Option Action := all.find? (·.code == c)

/-- Both halves of a rename say that it was one, beside which half they are. -/
def flags : Action → List Flag
  | added => [.created]
  | removed => [.removed]
  | modified => [.updated]
  | renamedOldName => [.movedFrom, .renamed]
  | renamedNewName => [.movedTo, .renamed]

end Action

def FlagSet.ofCode (c : UInt32) : FlagSet :=
  match Action.ofCode? c with
  | some a => ofList a.flags
  | none => empty

end FolderWatch
