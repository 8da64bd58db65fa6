import FolderWatch.Fault
/-! A failure told to the user: what could not be done, and what stood in the way, each cause
below the one it explains. -/
namespace FolderWatch

structure Complaint where
  what : String
  causes : List String
  deriving DecidableEq, Repr

def Fault.chain (f : Fault) : List String := f.message :: (f.cause?.map Failure.text).toList

namespace Complaint

def chain (c : Complaint) : List String := c.what :: c.causes

def indented (width : Nat) (s : String) : String :=
  ("\n" ++ String.ofList (List.replicate width ' ')).intercalate (s.splitOn "\n")

def numbered (n : Nat) (s : String) : String :=
  String.ofList (List.replicate (5 - (toString n).length) ' ') ++ toString n ++ ": " ++ indented 7 s

/-- The causes stand below; several are numbered. -/
def text (c : Complaint) : String :=
  match c.causes with
  | [] => c.what
  | [cause] => c.what ++ "\n\nCaused by:\n    " ++ indented 4 cause
  | causes =>
      c.what ++ "\n\nCaused by:\n" ++
        "\n".intercalate (causes.zipIdx.map fun (s, n) => numbered n s)

end Complaint
end FolderWatch
