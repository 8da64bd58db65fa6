import FolderWatch.Misfit
/-! The values of a document and how its statements put them into tables. A table remembers
how it came to be, because that decides what may still be added to it. -/
namespace FolderWatch.Toml

/-- How a table came to be: by its own header, as a step in a longer header, as a step in a
dotted key, or written out as a value. -/
inductive Origin
  | header
  | implied
  | dotted
  | inline
  deriving DecidableEq, Repr

/-- Dates and times are told from other values, but nothing here reads them. The items of an
array of tables are those that stand under double headers. -/
inductive Value
  | string (s : String)
  | integer (n : Int)
  | float (x : Binary64)
  | boolean (b : Bool)
  | moment
  | array (items : List Value)
  | tables (items : List Value)
  | table (origin : Origin) (entries : List (String × Value))

namespace Value

abbrev Entries := List (String × Value)

def found : Value → Found
  | string s => .string s
  | integer n => .integer n
  | float x => .float x
  | boolean b => .boolean b
  | array _ | tables _ => .sequence
  | moment | table .. => .map

def lookup (k : String) (es : Entries) : Option Value := (es.find? (·.1 == k)).map (·.2)

def replace (k : String) (v : Value) (es : Entries) : Entries :=
  es.map fun e => if e.1 == k then (k, v) else e

def remove (k : String) (es : Entries) : Entries := es.filter (·.1 != k)

/-- Changes the table that a path leads to, through the last item of an array of tables. Steps
that are missing are made, with the given origin; a dotted key does not enter a table that
has a header of its own, and no path enters a value. -/
def descend (made : Origin) (change : Origin → Entries → Option Entries) :
    List String → Origin → Entries → Option Entries
  | [], origin, es => change origin es
  | k :: ks, _, es =>
      match lookup k es with
      | none => do
          let inner ← descend made change ks made []
          some (es ++ [(k, table made inner)])
      | some (tables items) =>
          match items.getLast? with
          | some (table origin inner) => do
              let inner ← descend made change ks origin inner
              some (replace k (tables (items.dropLast ++ [table origin inner])) es)
          | _ => none
      | some (table .inline _) => none
      | some (table origin inner) =>
          if made = .dotted && origin = .header then none
          else do
            let inner ← descend made change ks origin inner
            some (replace k (table origin inner) es)
      | some _ => none

/-- A key with its value, in the table a header opened; a dotted key may only extend tables
that dotted keys made. -/
def insertPair (header path : List String) (key : String) (v : Value) (es : Entries) :
    Option Entries :=
  let add (origin : Origin) (es : Entries) : Option Entries :=
    if (origin == .dotted) == path.isEmpty then none
    else if (lookup key es).isSome then none
    else some (es ++ [(key, v)])
  descend .implied (descend .dotted add path) header .header es

/-- A table with a header; one that was only a step so far moves to the end. -/
def openTable (path : List String) (key : String) (es : Entries) : Option Entries :=
  descend .implied (fun _ es =>
    match lookup key es with
    | none => some (es ++ [(key, table .header [])])
    | some (table .implied inner) => some (remove key es ++ [(key, table .header inner)])
    | some _ => none) path .header es

def openItem (path : List String) (key : String) (es : Entries) : Option Entries :=
  descend .implied (fun _ es =>
    match lookup key es with
    | none => some (es ++ [(key, tables [table .header []])])
    | some (tables items) => some (replace key (tables (items ++ [table .header []])) es)
    | some _ => none) path .header es

end Value
end FolderWatch.Toml
