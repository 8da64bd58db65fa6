import FolderWatch.Text.Utf16
import FolderWatch.Text.Utf8
import FolderWatch.Text.Quoted
/-! A watched folder, known by its path as text and in the 16-bit units that the system is
asked with. Both come from the same bytes, and only there. -/
namespace FolderWatch

structure Folder where
  wide : List UInt16
  text : String
  deriving DecidableEq, Repr

namespace Folder

def ofText (s : String) : Folder := ⟨Utf16.encode s.toList, s⟩

/-- A path is bytes; what is no text in it shows as U+FFFD. -/
def ofBytes (path : List UInt8) : Folder := ofText (Utf8.toStringLossy path)

def closed (f : Folder) : List UInt16 := f.wide ++ [0]

def entry (f : Folder) (name : String) : String :=
  match f.text.toList.getLast? with
  | some '/' => f.text ++ name
  | some '\\' => f.text ++ name
  | _ => f.text ++ "/" ++ name

def compare (a b : Folder) : Ordering :=
  (Ord.compare a.wide b.wide).then (Ord.compare a.text b.text)

def debugText (f : Folder) : String := "CanonicalPath(" ++ Quoted.quote f.text ++ ")"

end Folder
end FolderWatch
