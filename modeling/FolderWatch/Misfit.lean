import FolderWatch.Number.Decimal
import FolderWatch.Text.Quoted
/-! Why a value does not fit where it stands, and the words for it. -/
namespace FolderWatch

inductive Found
  | boolean (b : Bool)
  | integer (n : Int)
  | float (x : Binary64)
  /-- A float in a format that writes long numbers with a power of ten. -/
  | shortFloat (x : Binary64)
  | string (s : String)
  | sequence
  | map
  | null
  deriving DecidableEq, Repr

inductive Wanted
  | number
  | count
  | boolean
  | sequence
  | string
  | choice
  | nothing
  deriving DecidableEq, Repr

inductive Misfit
  | malformed
  | notAChoice
  | notOneKey
  | unknownKey (key : String) (known : List String)
  | unknownChoice (choice : String) (known : List String)
  | wrongKind (found : Found) (wanted : Wanted)
  | outOfRange (n : Int) (wanted : Wanted)
  deriving DecidableEq, Repr

def Found.text : Found → String
  | boolean b => s!"boolean `{b}`"
  | integer n => s!"integer `{n}`"
  | float x => "floating point `" ++ x.pointText ++ "`"
  | shortFloat x => "floating point `" ++ x.shortText ++ "`"
  | string s => "string " ++ Quoted.quote s
  | sequence => "sequence"
  | map => "map"
  | null => "null"

def Wanted.text : Wanted → String
  | number => "f64"
  | count => "usize"
  | boolean => "a boolean"
  | sequence => "a sequence"
  | string => "a string"
  | choice => "string or map"
  | nothing => "unit"

namespace Misfit

def oneOf (names : List String) : String :=
  "one of " ++ ", ".intercalate (names.map fun n => "`" ++ n ++ "`")

/- How a text breaks the format, and a value that is no choice, are not told apart. -/
def message : Misfit → String
  | malformed | notAChoice => "other"
  | notOneKey => "invalid value: map, expected map with a single key"
  | unknownKey k known => "unknown field `" ++ k ++ "`, expected " ++ oneOf known
  | unknownChoice c known => "unknown variant `" ++ c ++ "`, expected " ++ oneOf known
  | wrongKind f w => "invalid type: " ++ f.text ++ ", expected " ++ w.text
  | outOfRange n w => "invalid value: " ++ (Found.integer n).text ++ ", expected " ++ w.text

end Misfit
end FolderWatch
