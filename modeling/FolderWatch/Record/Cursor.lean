import FolderWatch.Record.Chain
/-! A chain read call by call. A cursor holds the filled bytes and the place where the next record
would begin; a call gives one record, or the fault that ends the chain, or nothing more. Places
are machine words here: a sum may be too large for one, and a byte asked for may not be there. -/
namespace FolderWatch

inductive Slip
  | tooLarge (a b : Nat)
  | outside (place length : Nat)
  deriving DecidableEq, Repr

structure Cursor where
  bytes : List UInt8
  ahead : Option Nat
  deriving DecidableEq, Repr

namespace Cursor

def wordLimit : Nat := 1 <<< 64

def sum? (a b : Nat) : Option Nat := if a + b < wordLimit then some (a + b) else none

def sum (a b : Nat) : Except Slip Nat :=
  match sum? a b with
  | some n => .ok n
  | none => .error (.tooLarge a b)

def slice? (bytes : List UInt8) (start stop : Nat) : Option (List UInt8) :=
  if start ≤ stop ∧ stop ≤ bytes.length then some ((bytes.drop start).take (stop - start)) else none

def byte (bytes : List UInt8) (place : Nat) : Except Slip UInt8 :=
  match bytes[place]? with
  | some b => .ok b
  | none => .error (.outside place bytes.length)

def word (bytes : List UInt8) (place : Nat) : Except Slip UInt32 := do
  let a ← byte bytes place
  let b ← byte bytes (place + 1)
  let c ← byte bytes (place + 2)
  let d ← byte bytes (place + 3)
  .ok (Record.word a b c d)

def fields (head : List UInt8) : Except Slip (UInt32 × UInt32 × UInt32) := do
  let distance ← word head 0
  let action ← word head 4
  let nameLength ← word head 8
  .ok (distance, action, nameLength)

def ofBytes (bytes : List UInt8) : Cursor := ⟨bytes, if bytes.isEmpty then none else some 0⟩

/-- The cursor over as much of a buffer as was filled, all of it if more was said to be. -/
def ofBuffer (buffer : List UInt8) (returned : Nat) : Cursor :=
  ofBytes (buffer.take (min returned buffer.length))

def next (c : Cursor) : Except Slip (Option (Except Fault Record) × Cursor) :=
  match c.ahead with
  | none => .ok (none, c)
  | some offset =>
      let malformed := (some (.error (.malformedRecord offset)), { c with ahead := none })
      match (sum? offset Record.headLength).bind (slice? c.bytes offset) with
      | none => .ok malformed
      | some head =>
          match fields head with
          | .error slip => .error slip
          | .ok (distance, action, nameLength) =>
              match sum offset Record.headLength with
              | .error slip => .error slip
              | .ok start =>
                  match (sum? start nameLength.toNat).bind (slice? c.bytes start) with
                  | none => .ok malformed
                  | some name =>
                      let ahead := if distance = 0 then none else sum? offset distance.toNat
                      .ok (some (.ok ⟨offset, action, name⟩), { c with ahead := ahead })

def room (c : Cursor) : Nat :=
  match c.ahead with
  | none => 0
  | some offset => c.bytes.length + 1 - offset

theorem sumFits {a b n : Nat} (known : sum? a b = some n) : n = a + b := by
  unfold sum? at known
  split at known
  · exact (Option.some.inj known).symm
  · cases known

theorem nextNarrows {c d : Cursor} {r : Record} (given : c.next = .ok (some (.ok r), d)) :
    d.room < c.room := by
  unfold next at given
  split at given
  · cases given
  · next offset here =>
    dsimp only at given
    split at given
    · cases given
    · next head sliced =>
      -- The head was there, so the record began inside, and the next one begins further on.
      obtain ⟨stop, fits, cut⟩ := Option.bind_eq_some_iff.mp sliced
      have inside : offset ≤ c.bytes.length := by
        unfold slice? at cut
        split at cut
        · next between => exact Nat.le_trans between.1 between.2
        · cases cut
      split at given
      · cases given
      · next distance action nameLength _ =>
        split at given
        · cases given
        · split at given
          · cases given
          · cases given
            simp only [room, here]
            split
            · omega
            · next further sum =>
              split at sum
              · cases sum
              · next more =>
                have positive : distance.toNat ≠ 0 := fun zero =>
                  more (UInt32.toNat_inj.mp zero)
                have place := sumFits sum
                omega

def change (folder : Folder) (c : Cursor) : Except Slip (Option (Except Fault Event) × Cursor) :=
  match _given : c.next with
  | .error slip => .error slip
  | .ok (none, d) => .ok (none, d)
  | .ok (some (.error fault), d) => .ok (some (.error fault), d)
  | .ok (some (.ok r), d) =>
      match r.event? folder with
      | none => change folder d
      | some e => .ok (some (.ok e), d)
termination_by c.room
decreasing_by exact nextNarrows _given

end Cursor
end FolderWatch
