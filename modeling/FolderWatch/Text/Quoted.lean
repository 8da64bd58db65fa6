import FolderWatch.Text.Extender
import FolderWatch.Text.Unprintable
/-! Text between double quotes, as diagnostics show it: quotes, backslashes and the usual
controls get a backslash, whatever cannot be shown alone is written by its number. -/
namespace FolderWatch.Quoted

def byNumber (c : Char) : List Char :=
  ['\\', 'u', '\x7b'] ++ Nat.toDigits 16 c.toNat ++ ['\x7d']

def escape (c : Char) : List Char :=
  if c = '\x00' then ['\\', '0']
  else if c = '\t' then ['\\', 't']
  else if c = '\n' then ['\\', 'n']
  else if c = '\r' then ['\\', 'r']
  else if c = '"' || c = '\\' then ['\\', c]
  else if Extender.isExtender c || Unprintable.isUnprintable c then byNumber c
  else [c]

def quote (s : String) : String :=
  String.ofList (['"'] ++ s.toList.flatMap escape ++ ['"'])

end FolderWatch.Quoted
