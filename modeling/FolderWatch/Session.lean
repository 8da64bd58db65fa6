import FolderWatch.Record.Chain
import FolderWatch.Settings.Basic
import FolderWatch.Source.Basic
/-! The watch on one folder: two handles, a buffer, and one read at a time. -/
namespace FolderWatch

structure Session where
  folder : Folder
  dir : Nat
  completion : Nat
  request : Request
  buffer : Buffer
  outstanding : Bool
  bytesReturned : Nat
  deriving DecidableEq, Repr

/-- What an operation on a source gives, what it makes of the source, and what it reports. -/
structure Done (α : Type) where
  value : α
  source : Source
  log : List Message
  deriving DecidableEq, Repr

inductive Reading
  | changes (events : List Event)
  | tooSmall
  | overflow
  deriving DecidableEq, Repr

/-- What a look at the outstanding read found. With a failure the session is of no more use. -/
structure Poll where
  reading : Option Reading
  failure : Option Fault
  deriving DecidableEq, Repr

namespace Poll

def pending : Poll := ⟨none, none⟩
def isPending (p : Poll) : Bool := p.reading.isNone && p.failure.isNone
def mustEvict (p : Poll) : Bool := p.failure.isSome

end Poll

namespace Session

def issue (s : Session) (source : Source) : Done (Session × Option Fault) :=
  match source.issue s.dir s.request with
  | (.ok r, source) =>
      ⟨({ s with request := r, outstanding := true }, none), source, [.issuing s.folder]⟩
  | (.error e, source) => ⟨(s, some (.notIssued s.folder.text e)), source, [.issuing s.folder]⟩

def release (s : Session) (source : Source) : Done Unit :=
  let left := if s.outstanding then (source.cancel s.request).2 else source
  ⟨(), (left.close s.dir).close s.completion,
    if s.outstanding then [.cancelling s.folder] else []⟩

/-- Opens a folder and asks for its first changes. What was opened on the way to a fault is
closed again. -/
def start (source : Source) (folder : Folder) (settings : Settings) : Done (Except Fault Session) :=
  match source.openFolder folder with
  | (.error e, source) =>
      ⟨.error (.notOpened folder.text e), source, [.opening folder]⟩
  | (.ok dir, source) =>
      match Buffer.allocate settings.bufferBytes with
      | .error fault => ⟨.error fault, source.close dir, [.opening folder]⟩
      | .ok buffer =>
          match source.createCompletion with
          | (.error e, source) =>
              ⟨.error (.noCompletion folder.text e), source.close dir, [.opening folder]⟩
          | (.ok completion, source) =>
              let s : Session :=
                ⟨folder, dir, completion, Source.bind completion, buffer, false, 0⟩
              let issued := s.issue source
              match issued.value with
              | (s, none) => ⟨.ok s, issued.source, .opening folder :: issued.log⟩
              | (s, some fault) =>
                  let released := s.release issued.source
                  ⟨.error fault, released.source,
                    .opening folder :: issued.log ++ released.log⟩

def decode (s : Session) : List Event × List Message :=
  let chain := Chain.read (s.buffer.first s.bytesReturned)
  let dropped := match chain.fault? with
    | some fault => [.discarding s.folder fault]
    | none => []
  (chain.events s.folder, chain.remarks ++ dropped)

/-- Makes the session ready for the next read and asks for it. A completion that cannot be
reset ends the watch. -/
def rearm (s : Session) (source : Source) (reading : Reading) (log : List Message) :
    Done (Session × Except Fault Poll) :=
  match source.reset with
  | (some e, source) =>
      let fault : Fault := .noReset s.folder.text e
      ⟨(s, .error fault), source, log ++ [.fatal fault]⟩
  | (none, source) =>
      let issued := s.issue source
      match issued.value with
      | (s, none) => ⟨(s, .ok ⟨some reading, none⟩), issued.source, log ++ issued.log⟩
      | (s, some fault) =>
          ⟨(s, .ok ⟨some reading, some fault⟩), issued.source,
            log ++ issued.log ++ [.recoverable fault]⟩

def poll (s : Session) (source : Source) : Done (Session × Except Fault Poll) :=
  let source := source.noteIf (!s.outstanding) .idle
  let c := source.check s.dir s.request s.buffer
  let s := { s with request := c.request, buffer := c.buffer }
  match c.completion with
  | .pending => ⟨(s, .ok .pending), c.source, []⟩
  | .failed cause =>
      let fault : Fault := .notCompleted s.folder.text cause
      ⟨({ s with outstanding := false }, .ok ⟨none, some fault⟩), c.source, [.recoverable fault]⟩
  | .overflow =>
      { s with outstanding := false }.rearm c.source .overflow [.overflowed s.folder]
  | .ready 0 =>
      { s with outstanding := false, bytesReturned := 0 }.rearm c.source .tooSmall
        [.tooSmall s.folder s.buffer.size]
  | .ready n =>
      let s := { s with outstanding := false, bytesReturned := n }
      let (events, remarks) := s.decode
      s.rearm c.source (.changes events) (.returned n s.folder :: remarks)

def debugText (s : Session) : String :=
  "WatchSession \x7b path: " ++ s.folder.debugText ++ ", outstanding: " ++ toString s.outstanding ++
    ", bytes_returned: " ++ toString s.bytesReturned ++ ", buffer: " ++ s.buffer.debugText ++ " \x7d"

end Session
end FolderWatch
