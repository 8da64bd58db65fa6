import FolderWatch.Output.Line
import FolderWatch.Settings.Overrides
/-! The command line, read from left to right; the first word that does not fit ends it. -/
namespace FolderWatch.Command

structure Invocation where
  paths : List (List UInt8)
  config : Option (List UInt8)
  latency : Option Binary64
  bufferRecords : Option UInt64
  noRecursive : Bool
  exclude : List String
  format : Option OutputFormat
  logFile : Option (List UInt8)
  verbose : Nat
  deriving DecidableEq, Repr

inductive Stop
  | usage
  | help
  | version
  deriving DecidableEq, Repr

inductive Switch
  | config
  | latency
  | bufferRecords
  | noRecursive
  | exclude
  | format
  | logFile
  | verbose
  | help
  | version
  deriving DecidableEq, Repr

namespace Switch

def all : List Switch :=
  [config, latency, bufferRecords, noRecursive, exclude, format, logFile, verbose, help, version]

def long : Switch → String
  | config => "config"
  | latency => "latency"
  | bufferRecords => "buffer-records"
  | noRecursive => "no-recursive"
  | exclude => "exclude"
  | format => "format"
  | logFile => "log-file"
  | verbose => "verbose"
  | help => "help"
  | version => "version"

def short? : Switch → Option Char
  | config => some 'c'
  | latency => some 'l'
  | exclude => some 'e'
  | verbose => some 'v'
  | help => some 'h'
  | version => some 'V'
  | _ => none

def takesValue : Switch → Bool
  | config | latency | bufferRecords | exclude | format | logFile => true
  | noRecursive | verbose | help | version => false

def ofLong? (s : String) : Option Switch := all.find? (·.long == s)
def ofShort? (c : Char) : Option Switch := all.find? (·.short? == some c)

end Switch

namespace Invocation

def empty : Invocation := ⟨[], none, none, none, false, [], none, none, 0⟩

def overrides (i : Invocation) : Overrides :=
  ⟨i.latency, i.bufferRecords, i.noRecursive, i.exclude⟩

def path? (s : String) : Option (List UInt8) :=
  if s.isEmpty then none else some (Utf8.ofString s)

def count? (s : String) : Option UInt64 :=
  let ds := match s.toList with
    | '+' :: r => r
    | r => r
  let n := ds.foldl (fun n c => 10 * n + (c.toNat - 48)) 0
  if ds.isEmpty || !ds.all Char.isDigit || UInt64.size ≤ n then none else some n.toUInt64

def once {α : Type} (old new : Option α) : Except Stop (Option α) :=
  match old, new with
  | none, some x => .ok (some x)
  | _, _ => .error .usage

/-- A switch with its value; only exclude patterns may come more than once. -/
def setValue (i : Invocation) (s : Switch) (v : String) : Except Stop Invocation :=
  match s with
  | .config => (once i.config (path? v)).map fun x => { i with config := x }
  | .latency => (once i.latency (Binary64.ofText? v.toList)).map fun x => { i with latency := x }
  | .bufferRecords => (once i.bufferRecords (count? v)).map fun x => { i with bufferRecords := x }
  | .format => (once i.format (OutputFormat.ofName? v)).map fun x => { i with format := x }
  | .logFile => (once i.logFile (path? v)).map fun x => { i with logFile := x }
  | .exclude => .ok { i with exclude := i.exclude ++ [v] }
  | _ => .error .usage

/-- A switch without a value; only `verbose` may come more than once. -/
def setFlag (i : Invocation) (s : Switch) : Except Stop Invocation :=
  match s with
  | .verbose => .ok { i with verbose := min (i.verbose + 1) 255 }
  | .noRecursive => if i.noRecursive then .error .usage else .ok { i with noRecursive := true }
  | .help => .error .help
  | .version => .error .version
  | _ => .error .usage

def addPath (i : Invocation) (s : String) : Except Stop Invocation :=
  match path? s with
  | some p => .ok { i with paths := i.paths ++ [p] }
  | none => .error .usage

inductive Word
  | terminator
  | long (name : String) (value : Option String)
  | shorts (cs : List Char)
  | plain (s : String)
  deriving DecidableEq, Repr

def Word.of (s : String) : Word :=
  match s.toList with
  | ['-', '-'] => .terminator
  | '-' :: '-' :: r =>
      let name := r.takeWhile (· ≠ '=')
      match r.dropWhile (· ≠ '=') with
      | _ :: v => .long (String.ofList name) (some (String.ofList v))
      | [] => .long (String.ofList name) none
  | '-' :: c :: r => .shorts (c :: r)
  | _ => .plain s

/-- Short switches in one word. The rest behind one with a value is its value; without a rest
it waits for the next word. -/
def setShorts (i : Invocation) : List Char → Except Stop (Invocation × Option Switch)
  | [] => .ok (i, none)
  | c :: r =>
      match Switch.ofShort? c with
      | none => .error .usage
      | some s =>
          if s.takesValue then
            match r with
            | [] => .ok (i, some s)
            | '=' :: v => (i.setValue s (String.ofList v)).map fun i => (i, none)
            | v => (i.setValue s (String.ofList v)).map fun i => (i, none)
          else
            match i.setFlag s with
            | .error e => .error e
            | .ok i => i.setShorts r

def setLong (i : Invocation) (name : String) (value : Option String) :
    Except Stop (Invocation × Option Switch) :=
  match Switch.ofLong? name, value with
  | none, _ => .error .usage
  | some s, some v =>
      if s.takesValue then (i.setValue s v).map fun i => (i, none) else .error .usage
  | some s, none =>
      if s.takesValue then .ok (i, some s) else (i.setFlag s).map fun i => (i, none)

/-- The words in order, `waiting` for the value of a switch, or all plain behind `--`. -/
def readWords (i : Invocation) (waiting : Option Switch) (onlyPlain : Bool) :
    List String → Except Stop Invocation
  | [] => if waiting.isSome then .error .usage else .ok i
  | w :: ws =>
      if onlyPlain then
        match i.addPath w with
        | .error e => .error e
        | .ok i => i.readWords none true ws
      else
        match waiting, Word.of w with
        | some s, .plain v =>
            match i.setValue s v with
            | .error e => .error e
            | .ok i => i.readWords none false ws
        | some _, _ => .error .usage
        | none, .plain p =>
            match i.addPath p with
            | .error e => .error e
            | .ok i => i.readWords none false ws
        | none, .terminator => i.readWords none true ws
        | none, .long name value =>
            match i.setLong name value with
            | .error e => .error e
            | .ok (i, waiting) => i.readWords waiting false ws
        | none, .shorts cs =>
            match i.setShorts cs with
            | .error e => .error e
            | .ok (i, waiting) => i.readWords waiting false ws

def ofWords (ws : List String) : Except Stop Invocation :=
  match empty.readWords none false ws with
  | .error e => .error e
  | .ok i => if i.paths.isEmpty then .error .usage else .ok i

end Invocation
end FolderWatch.Command
