import FolderWatch.Complaint
import FolderWatch.Settings.Document
import FolderWatch.Text.Utf8
/-! Settings given for one run: they win over the file's, exclude patterns are added to them. -/
namespace FolderWatch

structure Overrides where
  latency : Option Binary64
  bufferRecords : Option UInt64
  noRecursive : Bool
  exclude : List String
  deriving DecidableEq, Repr

namespace Overrides

def none : Overrides := ⟨.none, .none, false, []⟩

def apply (o : Overrides) (s : Settings) : Settings :=
  { s with
    latency := o.latency.getD s.latency
    bufferRecords := o.bufferRecords.getD s.bufferRecords
    recursive := s.recursive && !o.noRecursive
    exclude := s.exclude ++ o.exclude }

end Overrides

namespace Settings

def notText : Failure := ⟨.invalidData, "stream did not contain valid UTF-8"⟩

/-- The settings in a file; they have to be usable before anything is laid over them. -/
def ofFile (read : List UInt8 → Except Failure (List UInt8)) (path : List UInt8) :
    Except Fault Settings :=
  let shown := Utf8.toStringLossy path
  match read path with
  | .error e => .error (.unreadableSettings shown e)
  | .ok bytes =>
      match Utf8.decode? bytes with
      | some cs => ofText (String.ofList cs)
      | none => .error (.unreadableSettings shown notText)

def load (read : List UInt8 → Except Failure (List UInt8)) (path : Option (List UInt8))
    (o : Overrides) : Except Complaint Settings :=
  let base : Except Complaint Settings := match path with
    | none => .ok default
    | some p =>
        match ofFile read p with
        | .ok s => .ok s
        | .error fault =>
            .error ⟨"Failed to load config from " ++ Utf8.toStringLossy p, fault.chain⟩
  match base with
  | .error c => .error c
  | .ok s =>
      match (o.apply s).validate with
      | .ok () => .ok (o.apply s)
      | .error fault => .error ⟨"Invalid watch settings", fault.chain⟩

end Settings
end FolderWatch
