import FolderWatch.Event
import FolderWatch.Exclude.Rule
import FolderWatch.Fault
import FolderWatch.Folder
/-! The exclude list of a watch, applied to the events of its folders. -/
namespace FolderWatch.Exclude

/-- The same rules for every folder, and whether a rule needs to know which entries are
folders. -/
structure Filter where
  folders : List Folder
  rules : List Rule
  looksUp : Bool

namespace Filter

def empty : Filter := ⟨[], [], false⟩

def isEmpty (f : Filter) : Bool := f.folders.isEmpty

def asksForFolders (line : String) : Bool :=
  (Blank.trimEnd line.toList).getLast? == some '/'

/-- The rules of the lines; the first line that cannot be read decides. -/
def readLines : List String → Except Flaw (List Rule)
  | [] => .ok []
  | line :: lines =>
      match Rule.ofLine line with
      | .error e => .error (.pattern line e)
      | .ok rule => (readLines lines).map fun rs => rule.toList ++ rs

def ofLines (folders : List Folder) (lines : List String) : Except Flaw Filter :=
  if lines.isEmpty || folders.isEmpty then .ok empty
  else (readLines lines).map fun rs => ⟨folders, rs, lines.any asksForFolders⟩

def stripped (lead path : List UInt8) : Option (List UInt8) :=
  if lead.isPrefixOf path then some (path.drop lead.length) else none

def withoutDot (path : List UInt8) : List UInt8 :=
  (stripped [Path.dot, Path.slash] path).getD path

/-- The path as the rules see it. Where it has several names and starts with the folder's own
path, that is taken off once more, with one separator behind it. -/
def candidate (folder path : List UInt8) : List UInt8 :=
  let root := withoutDot folder
  let path := withoutDot path
  if Path.names root == [[Path.dot]] || !path.contains Path.slash then path
  else
    match stripped root path with
    | some rest => (stripped [Path.slash] rest).getD rest
    | none => path

/-- What the rules say of a path. They expect one without a root, and where there is any rule, one
with a root is not answered at all. -/
def judge (rules : List Rule) (seen : List UInt8) (isFolder : Bool) : Except Panic Bool :=
  if !rules.isEmpty && Path.isAbsolute seen then
    .error ⟨"path is expected to be under the root"⟩
  else .ok (Rule.drops rules seen isFolder)

/-- Whether an event of a folder is dropped. Entries that do not lie below it, and the folder
itself, never are. -/
def skips (isFolder : String → Bool) (f : Filter) (folder : Folder) (path : String) :
    Except Panic Bool :=
  if !f.folders.contains folder then .ok false
  else
    let root := Utf8.ofString folder.text
    match Path.below? root (Utf8.ofString path) with
    | none => .ok false
    | some below =>
        if below.isEmpty then .ok false
        else judge f.rules (candidate root below) (f.looksUp && isFolder path)

/-- The events that are left, unless one of them is not answered. -/
def keep (isFolder : String → Bool) (f : Filter) (folder : Folder) :
    List Event → Except Panic (List Event)
  | [] => .ok []
  | e :: es =>
      match f.skips isFolder folder e.path with
      | .error panic => .error panic
      | .ok dropped =>
          (keep isFolder f folder es).map fun kept => if dropped then kept else e :: kept

end Filter
end FolderWatch.Exclude
