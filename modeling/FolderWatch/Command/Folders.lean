import FolderWatch.Complaint
import FolderWatch.Path
/-! The folders named on a command line, as absolute paths. -/
namespace FolderWatch.Command

/-- One path: its canonical form if it exists, else as it reads from the current folder, so
that it can be watched once it appears. -/
def resolve (canonical? : List UInt8 → Option (List UInt8)) (cwd path : List UInt8) : List UInt8 :=
  let full := Path.joinTo cwd path
  (canonical? full).getD full

def resolveAll (canonical? : List UInt8 → Option (List UInt8)) (cwd : List UInt8)
    (paths : List (List UInt8)) : Except Complaint (List (List UInt8)) :=
  if paths.isEmpty then .error ⟨"No paths to watch", []⟩
  else .ok (paths.map (resolve canonical? cwd))

end FolderWatch.Command
