import FolderWatch.Command.Folders
import FolderWatch.Command.LogFilter
import FolderWatch.FileTree.Basic
/-! What a command line comes to: exit code, output and what it does to files. -/
namespace FolderWatch.Command

structure Ending where
  code : UInt32
  out : String
  err : String
  deriving DecidableEq, Repr

def versionText : String := "dirwatch 0.1.0\n"

def usageText : String := "Usage: dirwatch [OPTIONS] <PATHS>...\n"

def helpText : String :=
  "dirwatch - watch directories through ReadDirectoryChangesW\n\n" ++ usageText ++ "\n" ++
  "Arguments:\n" ++
  "  <PATHS>...  Directories to watch\n\n" ++
  "Options:\n" ++
  "  -c, --config <CONFIG>                  TOML file with watch settings\n" ++
  "  -l, --latency <LATENCY>                Seconds to sleep between polls\n" ++
  "      --buffer-records <BUFFER_RECORDS>  Notification buffer capacity in records\n" ++
  "      --no-recursive                     Watch only the top level of each directory\n" ++
  "  -e, --exclude <EXCLUDE>                Gitignore-style pattern for paths to drop (repeatable)\n" ++
  "      --format <FORMAT>                  Output format [default: text] [possible values: text, json]\n" ++
  "      --log-file <LOG_FILE>              Write logs to this file instead of stderr\n" ++
  "  -v, --verbose...                       More log output (-v info, -vv debug, -vvv trace)\n" ++
  "  -h, --help                             Print help\n" ++
  "  -V, --version                          Print version\n"

def Stop.ending : Stop → Ending
  | .usage => ⟨2, "", usageText⟩
  | .help => ⟨0, helpText, ""⟩
  | .version => ⟨0, versionText, ""⟩

def failed (c : Complaint) : Ending := ⟨1, "", "Error: " ++ c.text ++ "\n"⟩

def broken : Ending := ⟨101, "", ""⟩

def logDirective (verbose : Nat) : String :=
  match verbose with
  | 0 => "warn"
  | 1 => "info"
  | 2 => "debug"
  | _ => "trace"

def notHere (paths : Nat) : Complaint :=
  ⟨s!"dirwatch uses ReadDirectoryChangesW and only runs on Windows ({paths} path(s) requested)", []⟩

def logNotOpened (path : List UInt8) (e : Failure) : Complaint :=
  ⟨"Failed to open log file " ++ Utf8.toStringLossy path, [e.text]⟩

/-- From the open log on: the settings are read, the paths resolved, and then it ends. -/
def proceed (read : List UInt8 → Except Failure (List UInt8))
    (canonical? : List UInt8 → Option (List UInt8)) (cwd : List UInt8) (i : Invocation) : Ending :=
  match Settings.load read i.config i.overrides with
  | .error c => failed c
  | .ok _ =>
      match resolveAll canonical? cwd i.paths with
      | .error c => failed c
      | .ok paths => failed (notHere paths.length)

def Ending.behind (e : Ending) (remarks : String) : Ending := { e with err := remarks ++ e.err }

def run (t : FileTree) (cwd : Location) (directives : Option String) (words : List String) :
    Ending × FileTree :=
  match Invocation.ofWords words with
  | .error stop => (stop.ending, t)
  | .ok i =>
      let reading := LogReading.ofDirectives (directives.getD "")
      let opened : Except Complaint FileTree := match i.logFile with
        | none => .ok t
        | some path =>
            match t.openToAppend cwd path with
            | .ok t => .ok t
            | .error e => .error (logNotOpened path e)
      if reading.stopped then (broken.behind reading.remarks, t)
      else
        match opened with
        | .error c => ((failed c).behind reading.remarks, t)
        | .ok t =>
            let ending := proceed (t.read cwd) (t.canonical? cwd) (FileTree.pathOf cwd) i
            (ending.behind reading.remarks, t)

end FolderWatch.Command
