import FolderWatch.Toml.Text
/-! Whole documents: keys, values and the statements on their lines. -/
namespace FolderWatch.Toml

def isBareKey (c : Char) : Bool := c.isAlphanum || c = '_' || c = '-'

def keyPart? : Reader String
  | '"' :: r => (basic .plain r).map fun x => (String.ofList x.1, x.2)
  | '\'' :: r => (literal r).map fun x => (String.ofList x.1, x.2)
  | cs =>
      let name := cs.takeWhile isBareKey
      if name.isEmpty then none else some (String.ofList name, cs.dropWhile isBareKey)

/-- Most parts that a key may have, and how deep values may nest. -/
def maxDepth : Nat := 79

def keyParts? : Nat → Reader (List String)
  | 0, _ => none
  | room + 1, cs => do
      let (part, r) ← keyPart? (skipSpace cs)
      match skipSpace r with
      | '.' :: r => do
          let (parts, r) ← keyParts? room r
          some (part :: parts, r)
      | r => some ([part], r)

def key? (cs : List Char) : Option ((List String × String) × List Char) := do
  let (parts, r) ← keyParts? maxDepth cs
  let last ← parts.getLast?
  some ((parts.dropLast, last), r)

def scalarValue? : Reader Value
  | 't' :: 'r' :: 'u' :: 'e' :: r => some (.boolean true, r)
  | 'f' :: 'a' :: 'l' :: 's' :: 'e' :: r => some (.boolean false, r)
  | cs =>
      ((string? cs).map fun x => (.string x.1, x.2)) <|>
        moment? cs <|> float? cs <|> integer? cs

mutual

/-- A value; `depth` arrays and inline tables may still be entered. The fuel is spent by one
on every call, and every other call takes a character. -/
def value? : Nat → Nat → Reader Value
  | 0, _, _ => none
  | fuel + 1, depth, '[' :: r =>
      match depth with
      | 0 => none
      | depth + 1 => (items? fuel depth (skipFiller false r)).map fun x => (.array x.1, x.2)
  | fuel + 1, depth, '\x7b' :: r =>
      match depth with
      | 0 => none
      | depth + 1 =>
          match skipSpace r with
          | '\x7d' :: r => some (.table .inline [], r)
          | r => (pairs? fuel depth [] r).map fun x => (.table .inline x.1, x.2)
  | _, _, cs => scalarValue? cs

def items? : Nat → Nat → Reader (List Value)
  | 0, _, _ => none
  | _, _, ']' :: r => some ([], r)
  | fuel + 1, depth, cs => do
      let (v, r) ← value? fuel depth cs
      match skipFiller false r with
      | ',' :: r => do
          let (vs, r) ← items? fuel depth (skipFiller false r)
          some (v :: vs, r)
      | ']' :: r => some ([v], r)
      | _ => none

def pairs? : Nat → Nat → Value.Entries → Reader Value.Entries
  | 0, _, _, _ => none
  | fuel + 1, depth, es, cs => do
      let ((path, key), r) ← key? cs
      let r ← char? '=' r
      let (v, r) ← value? fuel depth (skipSpace r)
      let es ← Value.insertPair [] path key v es
      match skipSpace r with
      | ',' :: r => pairs? fuel depth es r
      | '\x7d' :: r => some (es, r)
      | _ => none

end

inductive Statement
  | table (path : List String) (key : String)
  | item (path : List String) (key : String)
  | pair (path : List String) (key : String) (v : Value)

def statement? (cs : List Char) : Option (Statement × List Char) :=
  match cs with
  | '[' :: '[' :: r => do
      let ((path, key), r) ← key? r
      let r ← char? ']' r
      let r ← char? ']' r
      let r ← lineEnd? r
      some (.item path key, r)
  | '[' :: r => do
      let ((path, key), r) ← key? r
      let r ← char? ']' r
      let r ← lineEnd? r
      some (.table path key, r)
  | cs => do
      let ((path, key), r) ← key? cs
      let r ← char? '=' r
      let (v, r) ← value? (2 * r.length + 2) maxDepth (skipSpace r)
      let r ← lineEnd? r
      some (.pair path key v, r)

def statements? : Nat → List Char → Option (List Statement)
  | 0, _ => none
  | fuel + 1, cs =>
      match skipSpace cs with
      | [] => some []
      | '#' :: r => (lineEnd? ('#' :: r)).bind (statements? fuel)
      | '\n' :: r => statements? fuel r
      | '\r' :: r => (newline? ('\r' :: r)).bind (statements? fuel)
      | cs => do
          let (s, r) ← statement? cs
          let ss ← statements? fuel r
          some (s :: ss)

structure Built where
  header : List String
  root : Value.Entries

namespace Built

def add (b : Built) : Statement → Option Built
  | .table path key => (Value.openTable path key b.root).map fun es => ⟨path ++ [key], es⟩
  | .item path key => (Value.openItem path key b.root).map fun es => ⟨path ++ [key], es⟩
  | .pair path key v => (Value.insertPair b.header path key v b.root).map fun es => ⟨b.header, es⟩

end Built

/-- The root table of a document, entries in their order. A mark at the start that says how
the text is encoded is skipped. -/
def document? (text : String) : Option Value.Entries := do
  let cs := match text.toList with
    | '\uFEFF' :: r => r
    | r => r
  let ss ← statements? (cs.length + 1) cs
  let built ← ss.foldlM Built.add ⟨[], []⟩
  some built.root

end FolderWatch.Toml
