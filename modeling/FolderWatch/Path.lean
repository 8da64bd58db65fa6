import FolderWatch.Text.Utf8
/-! Paths as bytes, cut at their separators. Empty and one-dot segments name nothing, except a
one-dot segment that opens the path; two dots are a name like any other. -/
namespace FolderWatch.Path

def slash : UInt8 := 0x2F
def dot : UInt8 := 0x2E

def wayUp : List UInt8 := [dot, dot]

def split : List UInt8 → List (List UInt8)
  | [] => [[]]
  | b :: bs =>
      if b = slash then [] :: split bs
      else match split bs with
        | s :: ss => (b :: s) :: ss
        | [] => [[b]]

def join : List (List UInt8) → List UInt8
  | [] => []
  | [s] => s
  | s :: ss => s ++ slash :: join ss

/-- A segment that names nothing behind another one. -/
def isFiller (s : List UInt8) : Bool := s.isEmpty || s == [dot]

def isAbsolute (p : List UInt8) : Bool := p.head? == some slash

def dropFillers (ss : List (List UInt8)) : List (List UInt8) := ss.dropWhile isFiller
def dropLastFillers (ss : List (List UInt8)) : List (List UInt8) :=
  (ss.reverse.dropWhile isFiller).reverse

/-- The names on the way, fillers left out: the root as an empty name, a leading dot as one. -/
def names (p : List UInt8) : List (List UInt8) :=
  match split p with
  | [] => []
  | s :: ss =>
      let first := if s.isEmpty then (if ss.isEmpty then [] else [s]) else [s]
      first ++ ss.filter (!isFiller ·)

/-- What is left of the segments behind the given names, none if they differ. The first
segment stands for itself, later ones only if they are no fillers. -/
def behind : Bool → List (List UInt8) → List (List UInt8) → Option (List (List UInt8))
  | _, [], ss => some ss
  | _, _ :: _, [] => none
  | first, n :: ns, s :: ss =>
      if isFiller s && !first then behind false (n :: ns) ss
      else if s = n then behind false ns ss
      else none

def settled (ss : List (List UInt8)) : List (List UInt8) :=
  match ss with
  | [] => []
  | s :: rest => s :: dropLastFillers rest

def ended (p : List UInt8) : List UInt8 :=
  match settled (split p) with
  | [[]] => p.take 1
  | ss => join ss

/-- The path below a folder; none if it does not lie there. Separators and dots inside are
kept as they stand, those at the ends are dropped. Below the empty path everything lies where it
is, the root included. -/
def below? (folder path : List UInt8) : Option (List UInt8) :=
  if folder.isEmpty then some (ended path)
  else (behind true (names folder) (split path)).map fun ss => join (dropLastFillers (dropFillers ss))

/-- The path one name shorter; none for a path without names and for the root. -/
def parent? (p : List UInt8) : Option (List UInt8) :=
  match (settled (split p)).reverse with
  | [] => none
  | [s] => if s.isEmpty then none else some []
  | _ :: before =>
      match settled before.reverse with
      | [[]] => some [slash]
      | ss => some (join ss)

/-- The last name, unless the path ends at the root, in two dots, or is nothing but a dot. -/
def lastName? (p : List UInt8) : Option (List UInt8) :=
  match (settled (split p)).getLast? with
  | some s => if s.isEmpty || s == [dot] || s == wayUp then none else some s
  | none => none

def joinTo (folder path : List UInt8) : List UInt8 :=
  if isAbsolute path then path
  else if folder.isEmpty || folder.getLast? == some slash then folder ++ path
  else folder ++ slash :: path

end FolderWatch.Path
