/-! Strings as JSON writes them: quotes and backslashes behind a backslash, controls by their
short name or number, everything else as it is. -/
namespace FolderWatch.Json

def hex2 (n : Nat) : List Char :=
  let ds := Nat.toDigits 16 n
  List.replicate (2 - ds.length) '0' ++ ds

def escape (c : Char) : List Char :=
  if c = '"' then ['\\', '"']
  else if c = '\\' then ['\\', '\\']
  else if c = '\n' then ['\\', 'n']
  else if c = '\r' then ['\\', 'r']
  else if c = '\t' then ['\\', 't']
  else if c = '\x08' then ['\\', 'b']
  else if c = '\x0c' then ['\\', 'f']
  else if c.toNat < 0x20 then ['\\', 'u', '0', '0'] ++ hex2 c.toNat
  else [c]

def quote (s : String) : String := String.ofList (['"'] ++ s.toList.flatMap escape ++ ['"'])

end FolderWatch.Json
