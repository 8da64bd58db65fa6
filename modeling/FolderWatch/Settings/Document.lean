import FolderWatch.Settings.Basic
import FolderWatch.Toml.Document
/-! Settings from a document: every entry sets one field, what it does not name keeps its
default, and the result has to be usable. -/
namespace FolderWatch.Settings

open Toml (Value)

inductive Key
  | latency
  | records
  | recursive
  | interests
  | exclude
  deriving DecidableEq, Repr

namespace Key

def all : List Key := [latency, records, recursive, interests, exclude]

def name : Key → String
  | latency => "latency_secs"
  | records => "buffer_records"
  | recursive => "recursive"
  | interests => "filters"
  | exclude => "exclude"

def names : List String := all.map name

def ofName? (s : String) : Option Key := all.find? (·.name == s)

end Key

def interestNames : List String := Interest.all.map Interest.name

def interest (s : String) : Except Misfit Interest :=
  match Interest.ofName? s with
  | some i => .ok i
  | none => .error (.unknownChoice s interestNames)

def readInterest : Value → Except Misfit Interest
  | .string s => interest s
  | .table _ [(s, v)] => do
      let i ← interest s
      match v with
      | .table _ [] | .array [] => .ok i
      | _ => .error .notAChoice
  | _ => .error .notAChoice

def readLatency : Value → Except Misfit Binary64
  | .float x => .ok x
  | .integer n => .ok (Binary64.ofInt n)
  | v => .error (.wrongKind v.found .number)

def readRecords : Value → Except Misfit UInt64
  | .integer n => if n < 0 then .error (.outOfRange n .count) else .ok n.toNat.toUInt64
  | v => .error (.wrongKind v.found .count)

def readRecursive : Value → Except Misfit Bool
  | .boolean b => .ok b
  | v => .error (.wrongKind v.found .boolean)

def readText : Value → Except Misfit String
  | .string s => .ok s
  | v => .error (.wrongKind v.found .string)

def readItems {α : Type} (read : Value → Except Misfit α) : Value → Except Misfit (List α)
  | .array vs | .tables vs => vs.mapM read
  | v => .error (.wrongKind v.found .sequence)

def setEntry (s : Settings) (entry : String × Value) : Except Misfit Settings :=
  match Key.ofName? entry.1 with
  | none => .error (.unknownKey entry.1 Key.names)
  | some .latency => (readLatency entry.2).map fun x => { s with latency := x }
  | some .records => (readRecords entry.2).map fun n => { s with bufferRecords := n }
  | some .recursive => (readRecursive entry.2).map fun b => { s with recursive := b }
  | some .interests => (readItems readInterest entry.2).map fun is => { s with interests := is }
  | some .exclude => (readItems readText entry.2).map fun ps => { s with exclude := ps }

def ofDocument (text : String) : Except Misfit Settings :=
  match Toml.document? text with
  | none => .error .malformed
  | some es => es.foldlM setEntry default

def ofText (text : String) : Except Fault Settings :=
  match ofDocument text with
  | .error m => .error (.badSettings (.document m))
  | .ok s => s.validate.map fun _ => s

end FolderWatch.Settings
