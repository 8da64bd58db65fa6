import FolderWatch.Fault
import FolderWatch.Path
import FolderWatch.Table
/-! A tree of folders, files and symbolic links, and how a path is followed through it. -/
namespace FolderWatch

abbrev Name := List UInt8

abbrev Location := List Name

inductive Node
  | folder
  | file (content : List UInt8)
  | link (target : List UInt8)
  deriving DecidableEq, Repr

structure FileTree where
  entries : Table Location Node
  deriving DecidableEq, Repr

inductive AccessError
  | missing
  | notAFolder
  | isAFolder
  | nameTooLong
  | tooManyLinks
  | zeroByte
  deriving DecidableEq, Repr

namespace AccessError

def failure : AccessError → Failure
  | missing => ⟨.notFound, "No such file or directory (os error 2)"⟩
  | notAFolder => ⟨.notADirectory, "Not a directory (os error 20)"⟩
  | isAFolder => ⟨.isADirectory, "Is a directory (os error 21)"⟩
  | nameTooLong => ⟨.invalidFilename, "File name too long (os error 36)"⟩
  | tooManyLinks => ⟨.other, "Too many levels of symbolic links (os error 40)"⟩
  | zeroByte => ⟨.invalidInput, "file name contained an unexpected NUL byte"⟩

end AccessError

namespace FileTree

def empty : FileTree := ⟨[]⟩

def node? (t : FileTree) (l : Location) : Option Node :=
  if l.isEmpty then some .folder else Table.get? t.entries l

def put (t : FileTree) (l : Location) (n : Node) : FileTree := ⟨Table.set t.entries l n⟩

def maxNameLength : Nat := 255
def maxPathLength : Nat := 4095
def maxLinks : Nat := 40

/-- Where a path leads from a folder: the folder of its last name and that name, or a folder
reached by dots alone. -/
structure Spot where
  location : Location
  node : Option Node
  deriving DecidableEq, Repr

inductive Purpose
  | find
  | make
  deriving DecidableEq, Repr

/-- Follows segments from a location. All but the last have to be folders, links are followed,
and only the last name may be missing. No file is made under a name with a separator behind it,
whatever bears the name. `links` is how many may still be followed. -/
def follow (t : FileTree) (purpose : Purpose) :
    Nat → Nat → Location → List Name → Except AccessError Spot
  | _, _, here, [] => .ok ⟨here, t.node? here⟩
  | _, 0, _, _ :: _ => .error .tooManyLinks
  | links, fuel + 1, here, s :: rest =>
      if t.node? here ≠ some .folder then .error .notAFolder
      else if Path.isFiller s then t.follow purpose links fuel here rest
      else if s = Path.wayUp then t.follow purpose links fuel here.dropLast rest
      else if purpose = .make && !rest.isEmpty && rest.all List.isEmpty then .error .isAFolder
      else if maxNameLength < s.length then .error .nameTooLong
      else
        match t.node? (here ++ [s]) with
        | none => if rest.isEmpty then .ok ⟨here ++ [s], none⟩ else .error .missing
        | some (.link target) =>
            match links with
            | 0 => .error .tooManyLinks
            | links + 1 =>
                if target.isEmpty then .error .missing
                else
                  let start := if Path.isAbsolute target then [] else here
                  t.follow purpose links fuel start (Path.split target ++ rest)
        | some _ => t.follow purpose links fuel (here ++ [s]) rest

def reachFuel (t : FileTree) (path : List UInt8) : Nat :=
  path.length + 1 + (maxLinks + 1) * (1 + t.entries.foldl (fun n e =>
    match e.2 with
    | .link target => n + target.length + 1
    | _ => n) 0)

def reach (t : FileTree) (purpose : Purpose) (cwd : Location) (path : List UInt8) :
    Except AccessError Spot :=
  if path.contains 0 then .error .zeroByte
  else if path.isEmpty then .error .missing
  else
    t.follow purpose maxLinks (t.reachFuel path) (if Path.isAbsolute path then [] else cwd)
      (Path.split path)

def locate (t : FileTree) (purpose : Purpose) (cwd : Location) (path : List UInt8) :
    Except AccessError Spot :=
  if maxPathLength < path.length && !path.contains 0 then .error .nameTooLong
  else t.reach purpose cwd path

def find (t : FileTree) (cwd : Location) (path : List UInt8) :
    Except AccessError (Location × Node) :=
  match t.locate .find cwd path with
  | .error e => .error e
  | .ok ⟨_, none⟩ => .error .missing
  | .ok ⟨l, some n⟩ => .ok (l, n)

def read (t : FileTree) (cwd : Location) (path : List UInt8) : Except Failure (List UInt8) :=
  match t.find cwd path with
  | .error e => .error e.failure
  | .ok (_, .file content) => .ok content
  | .ok _ => .error AccessError.isAFolder.failure

def isFolder (t : FileTree) (cwd : Location) (path : List UInt8) : Bool :=
  match t.find cwd path with
  | .ok (_, .folder) => true
  | _ => false

def pathOf (l : Location) : List UInt8 :=
  if l.isEmpty then [Path.slash] else l.flatMap (Path.slash :: ·)

/-- The path without links, dots and doubled separators; only an entry that exists has one. The
way there is resolved name by name, so that it may be of any length itself. -/
def canonical? (t : FileTree) (cwd : Location) (path : List UInt8) : Option (List UInt8) :=
  match t.reach .find cwd path with
  | .ok ⟨l, some _⟩ => if maxPathLength < (pathOf l).length then none else some (pathOf l)
  | _ => none

def openToAppend (t : FileTree) (cwd : Location) (path : List UInt8) :
    Except Failure FileTree :=
  match t.locate .make cwd path with
  | .error e => .error e.failure
  | .ok ⟨_, some .folder⟩ => .error AccessError.isAFolder.failure
  | .ok ⟨l, none⟩ => .ok (t.put l (.file []))
  | .ok _ => .ok t

def makeFolder (t : FileTree) (cwd : Location) (path : List UInt8) : FileTree :=
  let start : Location := if Path.isAbsolute path then [] else cwd
  ((Path.split path).foldl (fun (t, here) s =>
    if Path.isFiller s then (t, here)
    else
      match t.locate .find here s with
      | .ok ⟨l, some _⟩ => (t, l)
      | .ok ⟨l, none⟩ => (t.put l .folder, l)
      | .error _ => (t, here ++ [s])) (t, start)).1

def place (t : FileTree) (cwd : Location) (path : List UInt8) (n : Node) : FileTree :=
  let t := match Path.parent? path with
    | some above => t.makeFolder cwd above
    | none => t
  match n with
  | .link _ =>
      match Path.parent? path, Path.lastName? path with
      | some above, some name =>
          match t.find cwd (if above.isEmpty then [Path.dot] else above) with
          | .ok (l, _) => t.put (l ++ [name]) n
          | .error _ => t
      | _, _ => t
  | _ =>
      match t.locate .find cwd path with
      | .ok ⟨l, _⟩ => t.put l n
      | .error _ => t

end FileTree
end FolderWatch
