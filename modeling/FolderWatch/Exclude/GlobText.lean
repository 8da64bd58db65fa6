import FolderWatch.Exclude.Glob
import FolderWatch.Exclude.PatternError
/-! Reading a glob from its text. -/
namespace FolderWatch.Exclude

/-- A group that is still open: its finished branches and the tokens in front of it, both
newest first. -/
structure OpenGroup where
  branches : List Glob
  outer : List Token

/-- How far a glob is read: the branch being read, newest token first, the open groups,
innermost first, the character before the next one, and whether a bracket was found that
nothing closes. -/
structure GlobDraft where
  tokens : List Token
  groups : List OpenGroup
  previous : Option Char
  bracketOpen : Bool

/-- A class as far as it is read: its ranges, newest first, whether a dash waits for the end of
a range, and whether nothing was read yet. -/
structure ClassDraft where
  ranges : List (Char × Char)
  dash : Bool
  first : Bool

namespace ClassDraft

def single (d : ClassDraft) (c : Char) : ClassDraft := ⟨(c, c) :: d.ranges, false, false⟩

def widen (d : ClassDraft) (c : Char) : Except GlobError ClassDraft :=
  match d.ranges with
  | (a, _) :: rs => if c < a then .error (.emptyRange a c) else .ok ⟨(a, c) :: rs, false, false⟩
  | [] => .ok (d.single c)

def add (d : ClassDraft) (c : Char) : Except GlobError ClassDraft :=
  if c = '-' && !d.first && !d.dash then .ok { d with dash := true }
  else if d.dash then d.widen c
  else .ok (d.single c)

/- A dash that waits in vain is a dash. -/
def allRanges (d : ClassDraft) : List (Char × Char) :=
  (if d.dash then ('-', '-') :: d.ranges else d.ranges).reverse

/-- The ranges of a class and the text behind its closing bracket; nothing if none closes it.
A bracket right at the start is one of the characters. -/
def read (d : ClassDraft) : List Char → Except GlobError (Option (List (Char × Char) × List Char))
  | [] => .ok none
  | c :: cs =>
      if c = ']' && !d.first then .ok (some (d.allRanges, cs))
      else
        match d.add c with
        | .error e => .error e
        | .ok d => d.read cs

end ClassDraft

namespace GlobDraft

def push (d : GlobDraft) (t : Token) (previous : Char) : GlobDraft :=
  { d with tokens := t :: d.tokens, previous := some previous }

def pushStars (d : GlobDraft) : GlobDraft := (d.push .star '*').push .star '*'

def startsName (d : GlobDraft) : Bool :=
  d.previous == some '/' ||
    (!d.groups.isEmpty && (d.previous == some ',' || d.previous == some '\x7b'))

/-- `**` behind other tokens takes the place of the token before it, which is a separator
unless that is such a `**` itself. -/
def pushDeep (d : GlobDraft) (t : Token) (previous : Char) : GlobDraft :=
  match d.tokens with
  | .leading :: ts => { d with tokens := .leading :: ts, previous := some previous }
  | .trailing :: ts => { d with tokens := .trailing :: ts, previous := some previous }
  | _ :: ts => { d with tokens := t :: ts, previous := some previous }
  | [] => d.push t previous

def doubleStar (d : GlobDraft) (cs : List Char) : GlobDraft × List Char :=
  if d.tokens.isEmpty then
    match cs with
    | [] => (d.push .leading '*', [])
    | '/' :: r => (d.push .leading '/', r)
    | _ => (d.pushStars, cs)
  else if !d.startsName then (d.pushStars, cs)
  else
    match cs with
    | [] => (d.pushDeep .trailing '*', [])
    | '/' :: r => (d.pushDeep .between '/', r)
    | c :: _ =>
        if (c = ',' || c = '\x7d') && !d.groups.isEmpty then (d.pushDeep .trailing '*', cs)
        else (d.pushStars, cs)

def openGroup (d : GlobDraft) : GlobDraft :=
  { d with tokens := [], groups := ⟨[], d.tokens⟩ :: d.groups, previous := some '\x7b' }

def nextBranch (d : GlobDraft) : GlobDraft :=
  match d.groups with
  | [] => d.push (.literal ',') ','
  | g :: gs =>
      { d with
        tokens := []
        groups := ⟨d.tokens.reverse :: g.branches, g.outer⟩ :: gs
        previous := some ',' }

def closeGroup (d : GlobDraft) : Except GlobError GlobDraft :=
  match d.groups with
  | [] => .error .unopened
  | g :: gs =>
      let branches := (d.tokens.reverse :: g.branches).reverse
      .ok { d with
        tokens := .group branches :: g.outer
        groups := gs
        previous := some '\x7d' }

/-- A class from behind its opening bracket; without a closing one the bracket is plain text,
and so is every later one. -/
def bracket (d : GlobDraft) (cs : List Char) : Except GlobError (GlobDraft × List Char) :=
  let (negated, body) := match cs with
    | '!' :: r => (true, r)
    | '^' :: r => (true, r)
    | r => (false, r)
  match (⟨[], false, true⟩ : ClassDraft).read body with
  | .error e => .error e
  | .ok (some (ranges, r)) => .ok (d.push (.oneOf negated ranges) ']', r)
  | .ok none => .ok ({ d with bracketOpen := true }.push (.literal '[') '[', cs)

def step (d : GlobDraft) (c : Char) (cs : List Char) : Except GlobError (GlobDraft × List Char) :=
  if c = '?' then .ok (d.push .any '?', cs)
  else if c = '*' then
    match cs with
    | '*' :: r => .ok (d.doubleStar r)
    | _ => .ok (d.push .star '*', cs)
  else if c = '[' && !d.bracketOpen then d.bracket cs
  else if c = '\x7b' then .ok (d.openGroup, cs)
  else if c = '\x7d' then d.closeGroup.map fun d => (d, cs)
  else if c = ',' then .ok (d.nextBranch, cs)
  else if c = '\\' then
    match cs with
    | [] => .error .danglingEscape
    | x :: r => .ok (d.push (.literal x) x, r)
  else .ok (d.push (.literal c) c, cs)

/-- Reads to the end; every step takes a character, so the fuel is never spent. -/
def readAll : Nat → GlobDraft → List Char → Except GlobError Glob
  | _, d, [] => if d.groups.isEmpty then .ok d.tokens.reverse else .error .unclosed
  | 0, _, _ :: _ => .error .unclosed
  | fuel + 1, d, c :: cs =>
      match d.step c cs with
      | .error e => .error e
      | .ok (d, rest) => readAll fuel d rest

end GlobDraft

def Glob.ofText (cs : List Char) : Except GlobError Glob :=
  GlobDraft.readAll cs.length ⟨[], [], none, false⟩ cs

end FolderWatch.Exclude
