/-! Why an exclude pattern cannot be read. -/
namespace FolderWatch.Exclude

inductive GlobError
  | emptyRange (first last : Char)
  | unopened
  | unclosed
  | danglingEscape
  deriving DecidableEq, Repr

structure PatternError where
  pattern : String
  reason : GlobError
  deriving DecidableEq, Repr

def GlobError.message : GlobError → String
  | emptyRange a b => "invalid range; '" ++ a.toString ++ "' > '" ++ b.toString ++ "'"
  | unopened =>
      "unopened alternate group; missing '\x7b' (maybe escape '\x7d' with '[\x7d]'?)"
  | unclosed =>
      "unclosed alternate group; missing '\x7d' (maybe escape '\x7b' with '[\x7b]'?)"
  | danglingEscape => "dangling '\\'"

def PatternError.message (e : PatternError) : String :=
  "error parsing glob '" ++ e.pattern ++ "': " ++ e.reason.message

end FolderWatch.Exclude
