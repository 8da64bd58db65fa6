import FolderWatch.Command.FieldPattern
import FolderWatch.Command.Invocation
/-! What a log shows, as directives between commas. A directive is a level, or a target, a span
or both with an optional level behind them: `target[span{field=pattern}]=level`. Those that cannot
be read are passed over with a remark; one that cannot even be taken apart stops the program. -/
namespace FolderWatch.Command

inductive DirectiveError
  | malformed
  | unknownLevel
  | badPattern (defect : FieldPattern.Defect)
  /-- A part of it begins or ends inside a character. -/
  | torn
  deriving DecidableEq, Repr

def FieldPattern.Defect.text : FieldPattern.Defect → String
  | unreadable => "error building NFA"
  | wordEdge =>
      "unsupported regex feature for DFAs: cannot build DFAs for regexes with Unicode word " ++
      "boundaries; switch to ASCII word boundaries, or heuristically enable Unicode word " ++
      "boundaries or use a different regex engine"

def DirectiveError.text : DirectiveError → String
  | malformed => "invalid filter directive"
  | unknownLevel => "error parsing level filter: expected one of \"off\", \"error\", \"warn\", " ++
      "\"info\", \"debug\", \"trace\", or a number 0-5"
  | badPattern d => "invalid field filter: " ++ d.text
  | torn => "part of it would begin or end inside a character"

/-- A directive as it stands, and the part of it that is read. -/
structure Directive where
  whole : List UInt8
  body : List UInt8
  deriving DecidableEq, Repr

namespace Directive

def ofChars (cs : List Char) : Directive :=
  ⟨Utf8.encode cs, Utf8.encode (Blank.trim cs)⟩

def isEdge : List UInt8 → Bool
  | [] => true
  | b :: _ => b < 0x80 || 0xBF < b

/-- A part of the text. Where it starts is counted in the body, given what follows there, but it is
taken from the text as it stands: white space in front shifts it. -/
def part (d : Directive) (following : List Char) (size : Nat) : Except DirectiveError (List Char) :=
  let behind := (Utf8.encode following).length
  let rest := d.whole.drop (d.body.length - behind)
  if isEdge rest && isEdge (rest.drop size) then .ok (Utf8.decodeLossy (rest.take size))
  else .error .torn

def partOf (d : Directive) (these following : List Char) : Except DirectiveError (List Char) :=
  d.part (these ++ following) (Utf8.encode these).length

def levels : List String := ["off", "error", "warn", "info", "debug", "trace"]

def isLevel (cs : List Char) : Bool :=
  levels.contains (String.ofList (cs.map Char.toLower)) ||
    (Invocation.count? (String.ofList cs)).any (·.toNat < levels.length)

/-- A level reaches to the end of the text, and none stands for every level. -/
def checkLevel (d : Directive) (cs : List Char) : Except DirectiveError Unit :=
  (d.part cs d.whole.length).bind fun level =>
    if level.isEmpty || isLevel level then .ok () else .error .unknownLevel

def checkBehindSpan (d : Directive) : List Char → Except DirectiveError Unit
  | [] => .ok ()
  | '=' :: cs => d.checkLevel cs
  | _ => .error .malformed

/-- What a field is compared with, if anything; a second equals sign ends it. -/
def valueOf? (field : List Char) : Option (List Char) :=
  match field.dropWhile (· ≠ '=') with
  | _ :: cs => some (cs.takeWhile (· ≠ '='))
  | [] => none

def checkValue (cs : List Char) : Except DirectiveError Unit :=
  if (Binary64.ofText? cs).isSome then .ok ()
  else (FieldPattern.check cs).mapError .badPattern

/-- From a field on; the span ends right behind the field. -/
def checkField (d : Directive) (cs : List Char) : Except DirectiveError Unit :=
  match cs.span (· ≠ '\x7d') with
  | (_, []) => .error .malformed
  | (field, rest) =>
      (d.partOf field rest).bind fun taken =>
        if field.isEmpty then .error .malformed
        else
          (checkValue ((valueOf? taken).getD [])).bind fun () =>
            match rest with
            | _ :: ']' :: rest => d.checkBehindSpan rest
            | _ => .error .malformed

def checkSpan (d : Directive) (cs : List Char) : Except DirectiveError Unit :=
  let (span, rest) := cs.span fun c => c ≠ ']' && c ≠ '\x7b'
  match rest with
  | [] => .error .malformed
  | c :: behind =>
      (d.partOf span rest).bind fun _ =>
        if c = ']' then d.checkBehindSpan behind else d.checkField behind

def checkTarget (d : Directive) (cs : List Char) : Except DirectiveError Unit :=
  let (target, rest) := cs.span fun c => c ≠ '=' && c ≠ '['
  match rest with
  | [] => .ok ()
  | c :: behind =>
      (d.partOf target rest).bind fun _ =>
        if c = '=' then d.checkLevel behind else d.checkSpan behind

def opensTarget (c : Char) : Bool :=
  Alphanumeric.isAlphanumeric c || c = '-' || c = ':' || c = '_'

def check (cs : List Char) : Except DirectiveError Unit :=
  let d := ofChars cs
  match Blank.trim cs with
  | '[' :: rest => d.checkSpan rest
  | c :: rest => if opensTarget c then d.checkTarget (c :: rest) else .error .malformed
  | [] => .error .malformed

end Directive

/-- What reading directives comes to: a line for each that is not used, and whether the last of
these lines is about one that stops the program. -/
structure LogReading where
  remarks : String
  stopped : Bool
  deriving DecidableEq, Repr

namespace LogReading

def ofParts : List String → LogReading
  | [] => ⟨"", false⟩
  | p :: ps =>
      match Directive.check p.toList with
      | .ok () => ofParts ps
      | .error .torn => ⟨"stopped at `" ++ p ++ "`: " ++ DirectiveError.torn.text ++ "\n", true⟩
      | .error e =>
          let r := ofParts ps
          { r with remarks := "ignoring `" ++ p ++ "`: " ++ e.text ++ "\n" ++ r.remarks }

def ofDirectives (directives : String) : LogReading :=
  ofParts ((directives.splitOn ",").filter (!·.isEmpty))

end LogReading

end FolderWatch.Command
