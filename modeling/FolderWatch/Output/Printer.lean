import FolderWatch.Message
import FolderWatch.Output.Line
/-! Printing events, line by line, to an output that may stop taking them. -/
namespace FolderWatch

/-- An output: what it holds, how often it was flushed, after how many lines it takes no more,
and whether flushing fails. -/
structure Sink where
  held : List Char
  flushes : Nat
  maxLines : Option Nat
  failFlush : Bool
  deriving DecidableEq, Repr

namespace Sink

def full : Failure := ⟨.other, "sink full"⟩
def notFlushed : Failure := ⟨.other, "sink flush"⟩

def lines (s : Sink) : Nat := s.held.count '\n'

def isFull (s : Sink) : Bool :=
  match s.maxLines with
  | some n => n ≤ s.lines
  | none => false

/-- Takes a whole text or nothing; an empty text asks for nothing. -/
def write (s : Sink) (cs : List Char) : Option Sink :=
  if cs.isEmpty then some s
  else if s.isFull then none
  else some { s with held := s.held ++ cs }

def flush (s : Sink) : Sink := { s with flushes := s.flushes + 1 }

end Sink

structure Printer where
  format : OutputFormat
  color : Bool
  sink : Sink
  deriving DecidableEq, Repr

namespace Printer

/-- The line and then its end; where one is refused the output stays as it is. -/
def printLine (p : Printer) (e : TimedEvent) : Bool × Printer :=
  match p.sink.write (e.line p.format p.color).toList with
  | none => (false, p)
  | some s =>
      match s.write ['\n'] with
      | none => (false, { p with sink := s })
      | some s => (true, { p with sink := s })

def printLines (p : Printer) : List TimedEvent → Bool × Printer
  | [] => (true, p)
  | e :: es =>
      match p.printLine e with
      | (true, p) => p.printLines es
      | (false, p) => (false, p)

/-- A batch; only a batch whose lines were all taken is flushed. -/
def print (p : Printer) (batch : List TimedEvent) : Printer × List Message :=
  match p.printLines batch with
  | (false, p) => (p, [.notWritten Sink.full])
  | (true, p) =>
      ({ p with sink := p.sink.flush },
        if p.sink.failFlush then [.notFlushed Sink.notFlushed] else [])

end Printer
end FolderWatch
