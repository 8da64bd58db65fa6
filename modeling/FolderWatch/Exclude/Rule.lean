import FolderWatch.Exclude.GlobText
import FolderWatch.Text.Blank
/-! One line of an exclude list: what it matches, whether it takes a match out again, and
whether it speaks of folders only. -/
namespace FolderWatch.Exclude

structure Rule where
  glob : Glob
  takesBack : Bool
  onlyFolders : Bool

namespace Rule

/-- White space at the end is cut, unless the line ends in a backslash and a space. -/
def cut (cs : List Char) : List Char :=
  match cs.reverse with
  | ' ' :: '\\' :: _ => cs
  | _ => Blank.trimEnd cs

structure Parts where
  body : List Char
  takesBack : Bool
  anchored : Bool
  onlyFolders : Bool
  deriving DecidableEq, Repr

/-- The marks in front: a backslash keeps `!` and `#` plain, `!` takes back, a separator ties
the glob to the folder itself. -/
def front (cs : List Char) : Parts :=
  match cs with
  | '\\' :: '!' :: r => ⟨'!' :: r, false, false, false⟩
  | '\\' :: '#' :: r => ⟨'#' :: r, false, false, false⟩
  | '!' :: '/' :: r => ⟨r, true, true, false⟩
  | '!' :: r => ⟨r, true, false, false⟩
  | '/' :: r => ⟨r, false, true, false⟩
  | r => ⟨r, false, false, false⟩

/-- A separator at the end, with a backslash in front of it, stands for folders only. -/
def back (p : Parts) : Parts :=
  match p.body.reverse with
  | '/' :: '\\' :: r => { p with body := r.reverse, onlyFolders := true }
  | '/' :: r => { p with body := r.reverse, onlyFolders := true }
  | _ => p

/-- A glob that is not tied and has no separator may match at any depth. -/
def anyDepth (p : Parts) : List Char :=
  let deep := p.body = ['*', '*'] || "**/".toList.isPrefixOf p.body
  if p.anchored || p.body.contains '/' || deep then p.body else "**/".toList ++ p.body

def contentsOnly (cs : List Char) : List Char :=
  if "/**".toList.isSuffixOf cs then cs ++ "/*".toList else cs

def ofParts (p : Parts) : Except GlobError Rule :=
  (Glob.ofText (contentsOnly (anyDepth p))).map fun g => ⟨g, p.takesBack, p.onlyFolders⟩

def ofLine (line : String) : Except PatternError (Option Rule) :=
  if line.toList.head? = some '#' then .ok none
  else
    let cs := cut line.toList
    if cs.isEmpty then .ok none
    else
      match ofParts (back (front cs)) with
      | .ok r => .ok (some r)
      | .error e => .error ⟨String.ofList cs, e⟩

def speaksOf (r : Rule) (path : List UInt8) (isFolder : Bool) : Bool :=
  (isFolder || !r.onlyFolders) && r.glob.accepts path

/-- What the rules say of a path itself: the last one that speaks of it decides. -/
def verdict? (rules : List Rule) (path : List UInt8) (isFolder : Bool) : Option Bool :=
  (rules.reverse.find? (·.speaksOf path isFolder)).map (!·.takesBack)

def above : Nat → List UInt8 → List (List UInt8)
  | 0, _ => []
  | fuel + 1, path =>
      match Path.parent? path with
      | some p => p :: above fuel p
      | none => []

/-- Whether the rules drop a path: it is asked about first, then the folders above it, and the
first answer counts. -/
def drops (rules : List Rule) (path : List UInt8) (isFolder : Bool) : Bool :=
  match verdict? rules path isFolder with
  | some b => b
  | none => ((above (path.length + 1) path).findSome? (verdict? rules · true)).getD false

end Rule
end FolderWatch.Exclude
