import FolderWatch.Event
import FolderWatch.Message
/-! Reading a filled notification buffer: a chain of records, each with the distance to the
next one, an action code, a name length in bytes and the name. The declared length alone ends
a name. A record that runs past the filled part ends the chain. -/
namespace FolderWatch

structure Record where
  offset : Nat
  action : UInt32
  name : List UInt8
  deriving DecidableEq, Repr

structure RecordHead where
  distance : Nat
  action : UInt32
  nameLength : Nat
  body : List UInt8
  deriving DecidableEq, Repr

namespace Record

def headLength : Nat := 12

def word (a b c d : UInt8) : UInt32 :=
  a.toUInt32 ||| (b.toUInt32 <<< 8) ||| (c.toUInt32 <<< 16) ||| (d.toUInt32 <<< 24)

def head? : List UInt8 → Option RecordHead
  | n0 :: n1 :: n2 :: n3 :: a0 :: a1 :: a2 :: a3 :: l0 :: l1 :: l2 :: l3 :: body =>
      some ⟨(word n0 n1 n2 n3).toNat, word a0 a1 a2 a3, (word l0 l1 l2 l3).toNat, body⟩
  | _ => none

/-- Whole units of the name, low byte first; an odd byte at the end belongs to none. -/
def unitsOf : List UInt8 → List UInt16
  | low :: high :: rest => (low.toUInt16 ||| (high.toUInt16 <<< 8)) :: unitsOf rest
  | _ => []

def units (r : Record) : List UInt16 := unitsOf r.name
def text (r : Record) : String := String.ofList (Utf16.decode r.units)

def event? (folder : Folder) (r : Record) : Option Event :=
  if r.name.isEmpty then none
  else some ⟨folder.entry r.text, FlagSet.ofCode r.action⟩

/-- A named record whose code is no action is worth a remark. -/
def remark? (r : Record) : Option Message :=
  if r.name.isEmpty || (Action.ofCode? r.action).isSome then none
  else some (.unknownAction r.action r.text)

end Record

/-- The records in order, and the offset of the one that did not fit, if the chain met one. -/
structure Chain where
  records : List Record
  stop : Option Nat
  deriving DecidableEq, Repr

namespace Chain

/-- The chain in the bytes from `offset` on. The distance to the next record is counted from
the start of this one, so records may overlap, but each starts behind the one before. -/
def readFrom (offset : Nat) : List UInt8 → Chain
  | [] => ⟨[], some offset⟩
  | b :: bytes =>
      match Record.head? (b :: bytes) with
      | none => ⟨[], some offset⟩
      | some head =>
          let name := head.body.take head.nameLength
          if name.length < head.nameLength then ⟨[], some offset⟩
          else
            let record : Record := ⟨offset, head.action, name⟩
            match head.distance with
            | 0 => ⟨[record], none⟩
            | d + 1 =>
                let rest := readFrom (offset + (d + 1)) (bytes.drop d)
                ⟨record :: rest.records, rest.stop⟩
termination_by bytes => bytes.length
decreasing_by
  simp only [List.length_drop, List.length_cons]
  omega

def read (bytes : List UInt8) : Chain :=
  if bytes.isEmpty then ⟨[], none⟩ else readFrom 0 bytes

def fault? (c : Chain) : Option Fault := c.stop.map .malformedRecord

def events (folder : Folder) (c : Chain) : List Event := c.records.filterMap (·.event? folder)

def remarks (c : Chain) : List Message := c.records.filterMap Record.remark?

end Chain
end FolderWatch
