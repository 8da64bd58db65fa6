/-! What can happen to an entry, and sets of it. A set lists its flags in the order of the
numbering, each once, so equal sets are equal lists. -/
namespace FolderWatch

inductive Flag
  | created
  | updated
  | removed
  | renamed
  | movedFrom
  | movedTo
  deriving DecidableEq, Repr

namespace Flag

def all : List Flag := [created, updated, removed, renamed, movedFrom, movedTo]

def rank : Flag → Nat
  | created => 0
  | updated => 1
  | removed => 2
  | renamed => 3
  | movedFrom => 4
  | movedTo => 5

def name : Flag → String
  | created => "Created"
  | updated => "Updated"
  | removed => "Removed"
  | renamed => "Renamed"
  | movedFrom => "MovedFrom"
  | movedTo => "MovedTo"

def ofName? (s : String) : Option Flag := all.find? (·.name == s)

end Flag

structure FlagSet where
  toList : List Flag
  deriving DecidableEq, Repr

namespace FlagSet

def empty : FlagSet := ⟨[]⟩

def shifted (n : Nat) : Except Nat Nat → Except Nat Nat
  | .ok i => .ok (n + i)
  | .error i => .error (n + i)

/-- Looks for a flag among flags in order, in the half that it has to stand in: its place, or the
one where it would have to be put. -/
def search (f : Flag) (flags : List Flag) : Except Nat Nat :=
  match flags with
  | [] => .error 0
  | [g] => if g = f then .ok 0 else .error (if g.rank < f.rank then 1 else 0)
  | g :: h :: rest =>
      let all := g :: h :: rest
      let half := all.length / 2
      if all[half]?.any (f.rank < ·.rank) then search f (all.take (all.length - half))
      else shifted half (search f (all.drop half))
termination_by flags.length
decreasing_by all_goals grind

def insert (s : FlagSet) (f : Flag) : FlagSet :=
  match search f s.toList with
  | .ok _ => s
  | .error i => ⟨s.toList.insertIdx i f⟩

def contains (s : FlagSet) (f : Flag) : Bool := (search f s.toList).isOk
def ofList (fs : List Flag) : FlagSet := fs.foldl insert empty
def size (s : FlagSet) : Nat := s.toList.length
def isEmpty (s : FlagSet) : Bool := s.toList.isEmpty
def names (s : FlagSet) : List String := s.toList.map Flag.name

def text (s : FlagSet) : String := " ".intercalate s.names

end FlagSet
end FolderWatch
