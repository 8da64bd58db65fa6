import FolderWatch.Fault
import FolderWatch.Folder
import FolderWatch.Time.Duration
/-! What the watch reports about itself while it runs. -/
namespace FolderWatch

inductive Level
  | error
  | warn
  | info
  | debug
  deriving DecidableEq, Repr

namespace Level

def name : Level → String
  | error => "ERROR"
  | warn => "WARN"
  | info => "INFO"
  | debug => "DEBUG"

def rank : Level → Nat
  | error => 0
  | warn => 1
  | info => 2
  | debug => 3

end Level

inductive Message
  | preparing (folder : Folder)
  | opening (folder : Folder)
  | issuing (folder : Folder)
  | returned (bytes : Nat) (folder : Folder)
  | unknownAction (code : UInt32) (name : String)
  | discarding (folder : Folder) (fault : Fault)
  | overflowed (folder : Folder)
  | tooSmall (folder : Folder) (bytes : Nat)
  | recoverable (fault : Fault)
  | fatal (fault : Fault)
  | evicting (folder : Folder)
  | cancelling (folder : Folder)
  | watching (folders : Nat) (latency : Duration) (bytes : Nat)
  | stoppedBy (fault : Fault)
  | stopped
  | notWritten (cause : Failure)
  | notFlushed (cause : Failure)
  deriving DecidableEq, Repr

namespace Message

def level : Message → Level
  | fatal _ | stoppedBy _ => .error
  | discarding .. | overflowed _ | tooSmall .. | recoverable _ | notWritten _ | notFlushed _ => .warn
  | watching .. | stopped => .info
  | preparing _ | opening _ | issuing _ | returned .. | unknownAction .. | evicting _
  | cancelling _ => .debug

def text : Message → String
  | preparing p => "Initializing search structures for " ++ p.text
  | opening p => "Initializing watch session for " ++ p.text
  | issuing p => "Issuing read for " ++ p.text
  | returned n p => s!"Read returned {n} bytes for " ++ p.text
  | unknownAction c n => s!"Unrecognized action code {c} for " ++ n ++ ", emitting without flags"
  | discarding p f => "Discarding rest of notification buffer for " ++ p.text ++ ": " ++ f.message
  | overflowed p =>
      "Notification buffer overflow for " ++ p.text ++ "; changes since the last read were lost"
  | tooSmall p n => "Notification buffer for " ++ p.text ++ s!" is too small ({n} bytes)"
  | recoverable f | fatal f => f.message
  | evicting p => "Evicting session for " ++ p.text
  | cancelling p => "Cancelling outstanding read for " ++ p.text
  | watching n latency bytes =>
      s!"Watching {n} path(s) (latency: " ++ latency.text ++ s!", buffer: {bytes} bytes)"
  | stoppedBy f => "Watch stopped by fatal error: " ++ f.message
  | stopped => "Watch stopped"
  | notWritten c => "Failed to write event: " ++ c.text
  | notFlushed c => "Failed to flush output: " ++ c.text

def shownAt (l : Level) (m : Message) : Bool := m.level.rank ≤ l.rank

def line (m : Message) : String := m.level.name ++ " " ++ m.text

end Message
end FolderWatch
