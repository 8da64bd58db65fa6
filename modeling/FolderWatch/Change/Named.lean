import FolderWatch.Change.Flag
import FolderWatch.Misfit
/-! Flags given by name. -/
namespace FolderWatch

/-- A value that should name a flag: anything but a map, or what a map holds under its keys. -/
inductive Naming
  | value (found : Found)
  | map (entries : List (String × Found))
  deriving DecidableEq, Repr

namespace Flag

def ofName (s : String) : Except Misfit Flag :=
  match ofName? s with
  | some f => .ok f
  | none => .error (.unknownChoice s (all.map name))

def ofNaming : Naming → Except Misfit Flag
  | .value (.string s) => ofName s
  | .value found => .error (.wrongKind found .choice)
  | .map [(key, .null)] => ofName key
  | .map [(key, found)] => (ofName key).bind fun _ => .error (.wrongKind found .nothing)
  | .map _ => .error .notOneKey

end Flag

/-- The set of the flags that values name; the first that names none decides. -/
def FlagSet.ofNamings (values : List Naming) : Except Misfit FlagSet :=
  (values.mapM Flag.ofNaming).map ofList

end FolderWatch
