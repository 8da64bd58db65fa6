import FolderWatch.Change.Action
import FolderWatch.Path
import FolderWatch.Time.Instant
/-! A change to one entry, as it is handed on. -/
namespace FolderWatch

structure Event where
  path : String
  flags : FlagSet
  deriving DecidableEq, Repr

namespace Event

def has (e : Event) (f : Flag) : Bool := e.flags.contains f

def name? (e : Event) : Option String :=
  (Path.lastName? (Utf8.ofString e.path)).map Utf8.toStringLossy

end Event

structure TimedEvent where
  event : Event
  time : Instant
  deriving DecidableEq, Repr

end FolderWatch
