import FolderWatch.Settings.Flaw
/-! What can go wrong, how far it reaches, and the words for it. -/
namespace FolderWatch

inductive FailureKind
  | notFound
  | permissionDenied
  | alreadyExists
  | wouldBlock
  | brokenPipe
  | connectionReset
  | invalidInput
  | invalidData
  | timedOut
  | writeZero
  | interrupted
  | unsupported
  | unexpectedEof
  | outOfMemory
  | notADirectory
  | isADirectory
  | invalidFilename
  | other
  deriving DecidableEq, Repr

structure Failure where
  kind : FailureKind
  text : String
  deriving DecidableEq, Repr

inductive Reach
  | everything
  | oneFolder
  | nothing
  deriving DecidableEq, Repr

inductive Fault
  | noBuffer (requested : Nat)
  | noCompletion (folder : String) (cause : Failure)
  | noReset (folder : String) (cause : Failure)
  | notOpened (folder : String) (cause : Failure)
  | notIssued (folder : String) (cause : Failure)
  | notCompleted (folder : String) (cause : Failure)
  | malformedRecord (offset : Nat)
  | badSettings (flaw : Flaw)
  | unreadableSettings (path : String) (cause : Failure)
  deriving DecidableEq, Repr

namespace Fault

def reach : Fault → Reach
  | noBuffer _ | noCompletion .. | noReset .. | badSettings _ | unreadableSettings .. => .everything
  | notOpened .. | notIssued .. | notCompleted .. => .oneFolder
  | malformedRecord _ => .nothing

def isFatal (f : Fault) : Bool := f.reach == .everything

def cause? : Fault → Option Failure
  | noCompletion _ c | noReset _ c | notOpened _ c | notIssued _ c | notCompleted _ c
  | unreadableSettings _ c => some c
  | noBuffer _ | malformedRecord _ | badSettings _ => none

def message : Fault → String
  | noBuffer n => s!"failed to allocate {n} byte notification buffer"
  | noCompletion p c => "failed to create completion event for " ++ p ++ ": " ++ c.text
  | noReset p c => "failed to reset completion event for " ++ p ++ ": " ++ c.text
  | notOpened p c => "failed to open " ++ p ++ ": " ++ c.text
  | notIssued p c => "ReadDirectoryChangesW failed for " ++ p ++ ": " ++ c.text
  | notCompleted p c => "GetOverlappedResult failed for " ++ p ++ ": " ++ c.text
  | malformedRecord n => s!"malformed notification record at offset {n}"
  | badSettings w => "invalid configuration: " ++ w.message
  | unreadableSettings p c => "failed to read config " ++ p ++ ": " ++ c.text

end Fault

/-- A condition of the program itself that did not hold, in its words. No caller hears of it as of
a fault: whatever is under way is given up. -/
structure Panic where
  text : String
  deriving DecidableEq, Repr

end FolderWatch
