import FolderWatch.Command.Outcome
/-! The command line program. Files are opened, read and looked up here; what they mean is
decided elsewhere. -/
namespace FolderWatch.Command

def systemText (code : UInt32) (details : String) : String := details ++ s!" (os error {code})"

def failureOf : IO.Error → Failure
  | .noFileOrDirectory .. => AccessError.missing.failure
  | .permissionDenied _ code details => ⟨.permissionDenied, systemText code details⟩
  | .inappropriateType _ code details => ⟨.isADirectory, systemText code details⟩
  | .invalidArgument _ code details => ⟨.other, systemText code details⟩
  | e => ⟨.other, toString e⟩

def attempt {α : Type} (act : IO α) : IO (Except Failure α) := do
  try
    return .ok (← act)
  catch e =>
    return .error (failureOf e)

def readConfig (i : Invocation) : IO (Except Failure (List UInt8)) :=
  match i.config with
  | none => return .ok []
  | some path => attempt do
      let bytes ← IO.FS.readBinFile (Utf8.toStringLossy path)
      return bytes.toList

def openLog (i : Invocation) : IO (Except Complaint Unit) := do
  match i.logFile with
  | none => return .ok ()
  | some path =>
      match ← attempt (IO.FS.Handle.mk (Utf8.toStringLossy path) .append) with
      | .ok _ => return .ok ()
      | .error e => return .error (logNotOpened path e)

def lookUp : List (List UInt8) → IO (Table (List UInt8) (List UInt8))
  | [] => return []
  | path :: paths => do
      let found ← attempt (IO.FS.realPath (Utf8.toStringLossy path))
      let rest ← lookUp paths
      match found with
      | .ok p => return (path, Utf8.ofString p.toString) :: rest
      | .error _ => return rest

def logVariable : String := "RUST_LOG"

def start (words : List String) : IO Ending := do
  match Invocation.ofWords words with
  | .error stop => return stop.ending
  | .ok i =>
      let reading := LogReading.ofDirectives ((← IO.getEnv logVariable).getD "")
      IO.eprint reading.remarks
      if reading.stopped then return broken
      match ← openLog i with
      | .error c => return failed c
      | .ok () =>
          let config ← readConfig i
          let cwd := Utf8.ofString (← IO.currentDir).toString
          let found ← lookUp (i.paths.map (Path.joinTo cwd))
          return proceed (fun _ => config) (Table.get? found) cwd i

end FolderWatch.Command

def main (words : List String) : IO UInt32 := do
  let ending ← FolderWatch.Command.start words
  IO.print ending.out
  IO.eprint ending.err
  return ending.code
