import FolderWatch.Text.Alphanumeric
import FolderWatch.Text.Blank
/-! Patterns for the values of fields, read as far as it takes to tell whether one can be used.
There are no tables of characters behind them, so classes by property and letters in either case
are refused unless the pattern turns to bytes, and then whatever could match a byte that is no
text is. Nothing is nested deeper than `maxDepth`. -/
namespace FolderWatch.Command.FieldPattern

inductive Defect
  | unreadable
  | wordEdge
  deriving DecidableEq, Repr

/-- What the flags at a place in a pattern say; the others change nothing here. -/
structure Flags where
  unicode : Bool
  caseless : Bool
  spaced : Bool
  deriving DecidableEq, Repr

namespace Flags

def initial : Flags := ⟨true, false, false⟩

def letters : List Char := ['i', 'm', 's', 'U', 'u', 'R', 'x']

def set (f : Flags) (letter : Char) (on : Bool) : Flags :=
  if letter = 'u' then { f with unicode := on }
  else if letter = 'i' then { f with caseless := on }
  else if letter = 'x' then { f with spaced := on }
  else f

def dropSpace (inComment : Bool) : List Char → List Char
  | [] => []
  | c :: cs =>
      if inComment then dropSpace (c ≠ '\n') cs
      else if Blank.isBlank c then dropSpace false cs
      else if c = '#' then dropSpace true cs
      else c :: cs

def skip (f : Flags) (cs : List Char) : List Char := if f.spaced then dropSpace false cs else cs

/-- The character that decides about a dash in front of it. A comment there is not passed over
whole. -/
def peek? (f : Flags) (cs : List Char) : Option Char :=
  if !f.spaced then cs.head?
  else
    match cs.dropWhile Blank.isBlank with
    | '#' :: r => (r.dropWhile Blank.isBlank).head?
    | r => r.head?

/-- Whether a character may stand for itself: in either case it would need a table. -/
def allowsChar (f : Flags) : Bool := !(f.unicode && f.caseless)

/-- Whether a class may be closed: among bytes, what it leaves out would be no text. -/
def allowsClass (f : Flags) (negated : Bool) : Bool :=
  if f.unicode then !f.caseless else !negated

def allowsMember (f : Flags) (c : Char) : Bool := f.unicode || c.toNat < 0x80

end Flags

inductive Escape
  | char (c : Char)
  /-- A character past ASCII, written by two digits as a byte is. -/
  | byte (c : Char)
  /-- Digits, white space or the characters of words. -/
  | kind (negated : Bool)
  | textEdge
  | wordEdge
  deriving DecidableEq, Repr

def hexValue? (c : Char) : Option Nat :=
  if c.isDigit then some (c.toNat - '0'.toNat)
  else if 'a' ≤ c && c ≤ 'f' then some (c.toNat - 'a'.toNat + 10)
  else if 'A' ≤ c && c ≤ 'F' then some (c.toNat - 'A'.toNat + 10)
  else none

def readHex (f : Flags) : Nat → Nat → List Char → Option (Nat × List Char)
  | 0, n, cs => some (n, cs)
  | digits + 1, n, cs =>
      match f.skip cs with
      | [] => none
      | c :: r => (hexValue? c).bind fun d => readHex f digits (16 * n + d) r

def readNumbered (f : Flags) (digits : Nat) (cs : List Char) : Option (Escape × List Char) :=
  (readHex f digits 0 cs).bind fun (n, r) =>
    if 0x10FFFF < n || (0xD800 ≤ n && n ≤ 0xDFFF) then none
    else if digits = 2 && 0x7F < n then some (.byte (Char.ofNat n), r)
    else some (.char (Char.ofNat n), r)

def controls : List (Char × Char) :=
  [('a', '\x07'), ('f', '\x0c'), ('t', '\t'), ('n', '\n'), ('r', '\r'), ('v', '\x0b')]

/-- Behind the backslash. Signs stand for themselves; other letters and digits mean nothing. -/
def readEscape (f : Flags) : List Char → Option (Escape × List Char)
  | [] => none
  | c :: cs =>
      if c = 'x' then readNumbered f 2 cs
      else if c = 'u' then readNumbered f 4 cs
      else if c = 'U' then readNumbered f 8 cs
      else if ['d', 's', 'w'].contains c then some (.kind false, cs)
      else if ['D', 'S', 'W'].contains c then some (.kind true, cs)
      else if ['A', 'z'].contains c then some (.textEdge, cs)
      else if ['b', 'B', '<', '>'].contains c then some (.wordEdge, cs)
      else
        match controls.lookup c with
        | some control => some (.char control, cs)
        | none => if c.toNat < 0x80 && !c.isAlphanum then some (.char c, cs) else none

def Flags.allows (f : Flags) : Escape → Bool
  | .char _ => f.allowsChar
  | .byte _ => f.unicode && !f.caseless
  | .kind negated => !f.unicode && !negated
  | .textEdge | .wordEdge => true

def readMember (f : Flags) : List Char → Option (Option Char × List Char)
  | [] => none
  | '\\' :: cs =>
      match readEscape f cs with
      | some (.char c, r) => if f.allowsMember c then some (some c, r) else none
      | some (.byte c, r) => if f.unicode then some (some c, r) else none
      | some (.kind negated, r) => if f.allows (.kind negated) then some (none, r) else none
      | _ => none
  | c :: cs => if f.allowsMember c then some (some c, cs) else none

/-- A member, or a range from one character up to another. A dash in front of the closing bracket
or of a second dash is no range. -/
def readRange (f : Flags) (cs : List Char) : Option (List Char) :=
  match readMember f cs with
  | none => none
  | some (first, r) =>
      match f.skip r with
      | [] => none
      | '-' :: behind =>
          if f.peek? behind == some ']' || f.peek? behind == some '-' then some ('-' :: behind)
          else
            match first, readMember f (f.skip behind) with
            | some a, some (some b, rest) => if a ≤ b then some rest else none
            | _, _ => none
      | rest => some rest

def namedKinds : List String :=
  ["alnum", "alpha", "ascii", "blank", "cntrl", "digit", "graph", "lower", "print", "punct",
   "space", "upper", "word", "xdigit"]

def readNamed? : List Char → Option (Bool × List Char)
  | ':' :: cs =>
      let (negated, cs) := match cs with
        | '^' :: r => (true, r)
        | r => (false, r)
      match cs.dropWhile (· ≠ ':') with
      | ':' :: ']' :: r =>
          if namedKinds.contains (String.ofList (cs.takeWhile (· ≠ ':'))) then some (negated, r)
          else none
      | _ => none
  | _ => none

def readFirst (f : Flags) : Nat → Nat → List Char → Option (Nat × List Char)
  | fuel + 1, members, '-' :: cs => readFirst f fuel (members + 1) (f.skip cs)
  | _, 0, ']' :: cs => if (f.skip cs).isEmpty then none else some (1, f.skip cs)
  | _, members, cs => if cs.isEmpty then none else some (members, cs)

/-- Behind the bracket that opens a class: is it negated, how many members have been read, and
what follows them. -/
def openClass (f : Flags) (cs : List Char) : Option (Bool × Nat × List Char) :=
  match f.skip cs with
  | '^' :: r => (readFirst f r.length 0 (f.skip r)).map fun m => (true, m)
  | r => (readFirst f r.length 0 r).map fun m => (false, m)

def depthOf : List Nat → Nat
  | [] => 0
  | [d] => d
  | ds => 1 + ds.foldl max 0

def classDepth (left : Option Nat) (members : List Nat) : Nat :=
  match left with
  | none => depthOf members
  | some d => 1 + max d (depthOf members)

/-- The rest of a class: how deep it is, and what follows it. `left` is what stands in front of the
last operator. -/
def readClass (f : Flags) : Nat → Option Nat → List Nat → List Char → Option (Nat × List Char)
  | 0, _, _, _ => none
  | fuel + 1, left, members, cs =>
      match f.skip cs with
      | [] => none
      | ']' :: r => some (classDepth left members, r)
      | '&' :: '&' :: r | '-' :: '-' :: r | '~' :: '~' :: r =>
          readClass f fuel (some (classDepth left members)) [] r
      | '[' :: r =>
          match readNamed? r with
          | some (negated, rest) =>
              if f.allowsClass negated then readClass f fuel left (0 :: members) rest else none
          | none =>
              match openClass f r with
              | none => none
              | some (negated, first, inner) =>
                  if !f.allowsClass negated then none
                  else
                    match readClass f fuel none (List.replicate first 0) inner with
                    | none => none
                    | some (d, rest) => readClass f fuel left ((d + 1) :: members) rest
      | r =>
          match readRange f r with
          | none => none
          | some rest => readClass f fuel left (0 :: members) rest

inductive Opening
  | setting (f : Flags)
  | group (f : Flags) (name : Option (List Char))

/-- Flags up to the colon or the parenthesis behind them; behind a dash they are turned off. None
comes twice, the dash neither, and it is not the last. -/
def readFlags (f : Flags) (seen : List Char) : List Char → Option (Opening × List Char)
  | [] => none
  | c :: cs =>
      if c = ':' then
        if seen.head? = some '-' then none else some (.group f none, cs)
      else if c = ')' then
        if seen.isEmpty || seen.head? = some '-' then none else some (.setting f, cs)
      else if seen.contains c then none
      else if c = '-' then readFlags f (c :: seen) cs
      else if Flags.letters.contains c then readFlags (f.set c (!seen.contains '-')) (c :: seen) cs
      else none

def isName : List Char → Bool
  | [] => false
  | c :: cs =>
      (c = '_' || Alphanumeric.isLetter c) &&
        cs.all fun c => ['_', '.', '[', ']'].contains c || Alphanumeric.isAlphanumeric c

def readName (f : Flags) (cs : List Char) : Option (Opening × List Char) :=
  let name := cs.takeWhile (· ≠ '>')
  match cs.dropWhile (· ≠ '>') with
  | _ :: r => if isName name then some (.group f (some name), r) else none
  | [] => none

def openGroup (f : Flags) (cs : List Char) : Option (Opening × List Char) :=
  match f.skip cs with
  | '?' :: 'P' :: '<' :: r => readName f r
  | '?' :: '<' :: r => readName f r
  | '?' :: r => readFlags f [] r
  | r => some (.group f none, r)

/-- How far reading has come: the names of groups so far, whether an edge of a word has been met
that would need a table, and the text that is left. -/
structure Progress where
  names : List (List Char)
  wordEdge : Bool
  rest : List Char

namespace Progress

def moved (p : Progress) (rest : List Char) : Progress := { p with rest := rest }

def meets (p : Progress) (f : Flags) (e : Escape) (rest : List Char) : Progress :=
  { p with wordEdge := p.wordEdge || (e = .wordEdge && f.unicode), rest := rest }

def named (p : Progress) (name : Option (List Char)) (rest : List Char) : Option Progress :=
  match name with
  | none => some (p.moved rest)
  | some n => if p.names.contains n then none else some { p with names := n :: p.names, rest := rest }

end Progress

/-- How deep a branch is; a setting of flags counts as a part of it. -/
def branchDepth (parts : List (Option Nat)) : Nat := depthOf (parts.map (·.getD 0))

/-- A question mark behind a sign of repetition belongs to it. -/
def dropLazy : List Char → List Char
  | '?' :: cs => cs
  | cs => cs

/-- Branches up to the end of their group or of the pattern: how deep they are, and the progress
behind them. `parts` are those of the last branch, the latest first, where nothing is a setting of
flags, which cannot be repeated. A count of repetitions would need a brace behind it, and the first
one has ended the field. -/
def readBranches : Nat → Flags → Bool → List Nat → List (Option Nat) → Progress →
    Option (Nat × Progress)
  | 0, _, _, _, _, _ => none
  | fuel + 1, f, inGroup, branches, parts, p =>
      match f.skip p.rest with
      | [] =>
          if inGroup then none else some (depthOf (branchDepth parts :: branches), p.moved [])
      | '(' :: r =>
          match openGroup f r with
          | none => none
          | some (.setting f, rest) =>
              readBranches fuel f inGroup branches (none :: parts) (p.moved rest)
          | some (.group inner name, rest) =>
              match (p.named name rest).bind (readBranches fuel inner true [] []) with
              | none => none
              | some (d, p) => readBranches fuel f inGroup branches (some (d + 1) :: parts) p
      | '[' :: r =>
          match openClass f r with
          | none => none
          | some (negated, first, inner) =>
              match readClass f inner.length none (List.replicate first 0) inner with
              | none => none
              | some (d, rest) =>
                  if f.allowsClass negated then
                    readBranches fuel f inGroup branches (some (d + 1) :: parts) (p.moved rest)
                  else none
      | '\\' :: r =>
          match readEscape f r with
          | none => none
          | some (e, rest) =>
              if f.allows e then
                readBranches fuel f inGroup branches (some 0 :: parts) (p.meets f e rest)
              else none
      | c :: r =>
          let single (allowed : Bool) : Option (Nat × Progress) :=
            if allowed then readBranches fuel f inGroup branches (some 0 :: parts) (p.moved r)
            else none
          if c = ')' then
            if inGroup then some (depthOf (branchDepth parts :: branches), p.moved r) else none
          else if c = '|' then
            readBranches fuel f inGroup (branchDepth parts :: branches) [] (p.moved r)
          else if c = '?' || c = '*' || c = '+' then
            match parts with
            | some d :: before =>
                readBranches fuel f inGroup branches (some (d + 1) :: before) (p.moved (dropLazy r))
            | _ => none
          else if c = '\x7b' then none
          else if c = '.' then single f.unicode
          else single (c = '^' || c = '$' || f.allowsChar)

def maxDepth : Nat := 250

def check (cs : List Char) : Except Defect Unit :=
  match readBranches (cs.length + 1) .initial false [] [] ⟨[], false, cs⟩ with
  | none => .error .unreadable
  | some (d, p) =>
      if maxDepth < d then .error .unreadable
      else if p.wordEdge then .error .wordEdge
      else .ok ()

end FolderWatch.Command.FieldPattern
