import FolderWatch.Record.Chain
/-! Writing a notification buffer the way the system fills one: every record starts at a
multiple of four and points to the next. How far it is to the next record is known only when
that one begins, so the distance is written into the record before it then. -/
namespace FolderWatch

structure Draft where
  bytes : List UInt8
  last : Option Nat
  deriving DecidableEq, Repr

namespace Draft

def empty : Draft := ⟨[], none⟩

def wordBytes (n : UInt32) : List UInt8 :=
  [n.toUInt8, (n >>> 8).toUInt8, (n >>> 16).toUInt8, (n >>> 24).toUInt8]

def unitBytes (u : UInt16) : List UInt8 := [u.toUInt8, (u >>> 8).toUInt8]

def overwrite (bytes : List UInt8) (offset : Nat) (n : UInt32) : List UInt8 :=
  bytes.take offset ++ wordBytes n ++ bytes.drop (offset + 4)

/-- The bytes, the last record in them pointing to one that begins behind them. -/
def linked (d : Draft) : List UInt8 :=
  match d.last with
  | some last => overwrite d.bytes last (d.bytes.length - last).toUInt32
  | none => d.bytes

def padded (bytes : List UInt8) : List UInt8 :=
  bytes ++ List.replicate ((4 - bytes.length % 4) % 4) 0

def pushUnits (d : Draft) (action : UInt32) (units : List UInt16) : Draft :=
  let head := wordBytes 0 ++ wordBytes action ++ wordBytes (2 * units.length).toUInt32
  ⟨padded (d.linked ++ head ++ units.flatMap unitBytes), some d.bytes.length⟩

def push (d : Draft) (action : UInt32) (name : String) : Draft :=
  d.pushUnits action (Utf16.encode name.toList)

def size (d : Draft) : Nat := d.bytes.length

def isEmpty (d : Draft) : Bool := d.bytes.isEmpty

def finish (d : Draft) : List UInt8 × Draft := (d.bytes, { d with bytes := [], last := none })

end Draft
end FolderWatch
