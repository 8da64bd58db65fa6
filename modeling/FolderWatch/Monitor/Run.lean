import FolderWatch.Monitor.Basic
/-! The loop around the ticks. Before every tick it sleeps; a request to stop ends the sleep and
the run. Asleep or not, a run without requests goes on as long as nothing fatal happens. A panic
takes the run down with the tick: nothing more is said, and no session is let go. -/
namespace FolderWatch.Monitor

/-- How a run comes to its end; `endless` is a run that outlasts the ticks it was given. -/
inductive RunEnd
  | stopped
  | failed (fault : Fault)
  | unwound (panic : Panic)
  | endless
  deriving DecidableEq, Repr

def RunEnd.returns : RunEnd → Bool
  | .unwound _ => false
  | _ => true

structure Run where
  batches : List (List Event)
  ending : RunEnd
  log : List Message
  deriving DecidableEq, Repr

/-- Who asks for a stop after a tick, told how many ticks are over, how many batches had come
before the last one and how many came with it. -/
abbrev Stopper := Nat → Nat → Nat → Bool

namespace Stopper

def never : Stopper := fun _ _ _ => false
def afterTicks (n : Nat) : Stopper := fun ticks _ _ => ticks == n
def afterBatches (n : Nat) : Stopper := fun _ before now => before < n && n ≤ before + now

end Stopper

/-- The loop from a sleep on, when so many ticks are over and so many batches have come. The
fuel counts the ticks still to come. -/
def loop (isFolder : String → Bool) (asks : Stopper) :
    Nat → Nat → Nat → Monitor → Monitor × Run
  | fuel, ticks, received, m =>
      match m.stopRequests with
      | n + 1 =>
          let (m, log) := { m with stopRequests := n }.clear
          (m, ⟨[], .stopped, .stopped :: log⟩)
      | 0 =>
          match fuel with
          | 0 => (m, ⟨[], .endless, []⟩)
          | fuel + 1 =>
              let (m, t) := m.tick isFolder
              let now := t.batches.length
              let m := if asks (ticks + 1) received now then m.requestStop else m
              match t.cut with
              | some (.fault fault) =>
                  (m, ⟨t.batches, .failed fault, t.log ++ [.stoppedBy fault]⟩)
              | some (.panic panic) => (m, ⟨t.batches, .unwound panic, t.log⟩)
              | none =>
                  let (m, rest) := loop isFolder asks fuel (ticks + 1) (received + now) m
                  (m, ⟨t.batches ++ rest.batches, rest.ending, t.log ++ rest.log⟩)

/-- Ticks after which no batch comes any more: each uses up something laid down, or opens a
folder for good, or is like all that follow. -/
def horizon (m : Monitor) : Nat := m.source.remaining + m.folders.length + 2

def run (isFolder : String → Bool) (asks : Stopper) (fuel : Nat) (m : Monitor) : Monitor × Run :=
  let opening : Message := .watching m.folders.length m.settings.sleep m.settings.bufferBytes
  let (after, r) := m.loop isFolder asks fuel 0 0
  (after, { r with log := opening :: r.log })

end FolderWatch.Monitor
