import FolderWatch.Session
/-! The sessions of all watched folders, each under its folder. -/
namespace FolderWatch

abbrev Registry := Table Folder Session

namespace Registry

def insert (r : Registry) (s : Session) : Registry := Table.set r s.folder s

def outstanding (r : Registry) : Nat := (r.values.filter (·.outstanding)).length

def evict (r : Registry) (source : Source) (f : Folder) : Done (Option Session × Registry) :=
  match Table.get? r f with
  | some s =>
      let released := s.release source
      ⟨(some s, Table.erase r f), released.source, released.log⟩
  | none => ⟨(none, r), source, []⟩

/-- Starts a session; one that the folder had is released afterwards. -/
def start (r : Registry) (source : Source) (f : Folder) (settings : Settings) :
    Done (Except Fault (Option Session) × Registry) :=
  let started := Session.start source f settings
  match started.value with
  | .error fault => ⟨(.error fault, r), started.source, started.log⟩
  | .ok s =>
      match Table.get? r f with
      | some old =>
          let released := old.release started.source
          ⟨(.ok (some old), insert r s), released.source, started.log ++ released.log⟩
      | none => ⟨(.ok none, insert r s), started.source, started.log⟩

def poll (r : Registry) (source : Source) (f : Folder) :
    Option (Done (Except Fault Poll × Registry)) :=
  (Table.get? r f).map fun s =>
    let polled := s.poll source
    ⟨(polled.value.2, insert r polled.value.1), polled.source, polled.log⟩

def clear (r : Registry) (source : Source) : Done Unit :=
  r.values.foldl (fun done s =>
    let released := s.release done.source
    ⟨(), released.source, done.log ++ released.log⟩) ⟨(), source, []⟩

end Registry
end FolderWatch
