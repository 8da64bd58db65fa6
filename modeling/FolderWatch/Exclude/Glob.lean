import FolderWatch.Path
/-! Globs and what they match. A path is matched as bytes, so `any` is one byte and a character
past ASCII inside a class stands for its bytes. -/
namespace FolderWatch.Exclude

inductive Token
  | literal (c : Char)
  | any
  | star
  /-- `**` in front: any folders that lead to the rest, or none. -/
  | leading
  /-- `**` behind a separator at the end: anything below. -/
  | trailing
  /-- `**` between separators: any folders in between, or none. -/
  | between
  | oneOf (negated : Bool) (ranges : List (Char × Char))
  | group (branches : List (List Token))

abbrev Glob := List Token

namespace Glob

/-- One verdict for every suffix of a path, the whole path first and the empty end last: does
what follows match there? -/
abbrev Verdicts := List Bool

def one (p : UInt8 → Bool) : List UInt8 → Verdicts → Verdicts
  | b :: bs, _ :: vs => (p b && vs.headD false) :: one p bs vs
  | _, _ => [false]

def many (p : UInt8 → Bool) : List UInt8 → Verdicts → Verdicts
  | b :: bs, v :: vs =>
      let rest := many p bs vs
      (v || (p b && rest.headD false)) :: rest
  | _, vs => vs

def orElse (a b : Verdicts) : Verdicts := List.zipWith (· || ·) a b

def isSlash (b : UInt8) : Bool := b == Path.slash
def notSlash (b : UInt8) : Bool := b != Path.slash
def anyByte (_ : UInt8) : Bool := true

/-- The ranges of bytes that a range of characters stands for: all bytes of both ends, and
what lies between the last byte of the first and the first byte of the last. -/
def byteRanges (r : Char × Char) : List (UInt8 × UInt8) :=
  let a := String.utf8EncodeChar r.1
  let z := String.utf8EncodeChar r.2
  if r.1 = r.2 then a.map fun b => (b, b)
  else
    a.dropLast.map (fun b => (b, b)) ++ [(a.getLastD 0, z.headD 0)] ++
      z.tail.map (fun b => (b, b))

def inClass (negated : Bool) (ranges : List (Char × Char)) (b : UInt8) : Bool :=
  ((ranges.flatMap byteRanges).any fun r => r.1 ≤ b && b ≤ r.2) != negated

mutual

/-- Nothing in the token takes part in matching: a group of branches without any content. -/
def isSilentToken : Token → Bool
  | .group bs => areSilent bs
  | _ => false

def isSilent : List Token → Bool
  | [] => true
  | t :: ts => isSilentToken t && isSilent ts

def areSilent : List (List Token) → Bool
  | [] => true
  | b :: bs => isSilent b && areSilent bs

end

mutual

def before (path : List UInt8) : Token → Verdicts → Verdicts
  | .literal c, vs => (String.utf8EncodeChar c).foldr (fun b vs => one (· == b) path vs) vs
  | .any, vs => one notSlash path vs
  | .star, vs => many notSlash path vs
  | .leading, vs => orElse vs (many anyByte path (one isSlash path vs))
  | .trailing, vs => one isSlash path (many anyByte path vs)
  | .between, vs => one isSlash path (orElse vs (many anyByte path (one isSlash path vs)))
  | .oneOf negated ranges, vs => one (inClass negated ranges) path vs
  | .group branches, vs => if areSilent branches then vs else beforeAny path branches vs

def beforeAll (path : List UInt8) : List Token → Verdicts → Verdicts
  | [], vs => vs
  | t :: ts, vs => before path t (beforeAll path ts vs)

/- A branch without content is no branch. -/
def beforeAny (path : List UInt8) : List (List Token) → Verdicts → Verdicts
  | [], vs => vs.map fun _ => false
  | b :: bs, vs =>
      if isSilent b then beforeAny path bs vs
      else orElse (beforeAll path b vs) (beforeAny path bs vs)

end

def atEnd (path : List UInt8) : Verdicts := path.map (fun _ => false) ++ [true]

def literal? : Token → Option Char
  | .literal c => some c
  | _ => none

def isLiteral (t : Token) : Bool := (literal? t).isSome
def isChar (c : Char) (t : Token) : Bool := literal? t == some c

def isLeading : Token → Bool
  | .leading => true
  | _ => false

/-- Whether the glob is compared with the name at the end of a path: it ends in a point, and is
neither plain text nor plain text of several names behind `**`. -/
def wantsName (g : Glob) : Bool :=
  (match g.getLast? with
    | some t => isChar '.' t
    | none => false) &&
  (match g with
    | t :: ts =>
        if isLeading t then !(ts.all isLiteral && ts.any (isChar '/')) else !g.all isLiteral
    | [] => false)

def endsInWayUp (path : List UInt8) : Bool :=
  (path.reverse.takeWhile notSlash).reverse == Path.wayUp

def accepts (g : Glob) (path : List UInt8) : Bool :=
  match g with
  | [.leading] => true
  | _ =>
      if wantsName g && endsInWayUp path then false
      else (beforeAll path g (atEnd path)).headD false

end Glob
end FolderWatch.Exclude
