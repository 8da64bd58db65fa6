import FolderWatch.Proofs.Record.Chain
import FolderWatch.Record.Draft
import Mathlib.Algebra.Ring.Nat

/-! Records as they are laid out in a buffer, each padded and pointing to the next, and the
chain that is read from such a layout. -/
namespace FolderWatch

theorem Record.wordOfBytes (n : UInt32) :
    word n.toUInt8 (n >>> 8).toUInt8 (n >>> 16).toUInt8 (n >>> 24).toUInt8 = n := by
  apply UInt32.toBitVec_inj.mp
  apply BitVec.eq_of_getLsbD_eq
  intro i inside
  have eight : UInt32.toBitVec 8 % 32 = 8#32 := rfl
  have sixteen : UInt32.toBitVec 16 % 32 = 16#32 := rfl
  have twentyFour : UInt32.toBitVec 24 % 32 = 24#32 := rfl
  simp only [word, UInt32.toBitVec_or, UInt32.toBitVec_shiftLeft, UInt8.toBitVec_toUInt32,
    UInt32.toBitVec_toUInt8, UInt32.toBitVec_shiftRight, BitVec.getLsbD_or, eight, sixteen,
    twentyFour, BitVec.shiftLeft_eq', BitVec.ushiftRight_eq', BitVec.toNat_ofNat,
    BitVec.getLsbD_shiftLeft, BitVec.getLsbD_setWidth, BitVec.getLsbD_ushiftRight]
  grind

theorem Record.unitOfBytes (u : UInt16) :
    u.toUInt8.toUInt16 ||| ((u >>> 8).toUInt8.toUInt16 <<< 8) = u := by
  apply UInt16.toBitVec_inj.mp
  apply BitVec.eq_of_getLsbD_eq
  intro i inside
  have eight : UInt16.toBitVec 8 % 16 = 8#16 := rfl
  simp only [UInt16.toBitVec_or, UInt16.toBitVec_shiftLeft, UInt8.toBitVec_toUInt16,
    UInt16.toBitVec_toUInt8, UInt16.toBitVec_shiftRight, BitVec.getLsbD_or, eight,
    BitVec.shiftLeft_eq', BitVec.ushiftRight_eq', BitVec.toNat_ofNat,
    BitVec.getLsbD_shiftLeft, BitVec.getLsbD_setWidth, BitVec.getLsbD_ushiftRight]
  grind

theorem Record.unitsOfBytes (units : List UInt16) :
    unitsOf (units.flatMap Draft.unitBytes) = units := by
  induction units with
  | nil => rfl
  | cons u units ih =>
    simp only [List.flatMap_cons, Draft.unitBytes, List.cons_append, List.nil_append, unitsOf,
      unitOfBytes]
    exact congrArg (u :: ·) ih

theorem Draft.unitBytesLength (units : List UInt16) :
    (units.flatMap unitBytes).length = 2 * units.length := by
  induction units with
  | nil => rfl
  | cons u units ih =>
    simp only [List.flatMap_cons, List.length_append, ih, List.length_cons, unitBytes,
      List.length_nil]
    omega

structure DraftRecord where
  action : UInt32
  units : List UInt16
  deriving DecidableEq, Repr

namespace DraftRecord

def length (r : DraftRecord) : Nat := Record.headLength + 2 * r.units.length

def size (r : DraftRecord) : Nat := (r.length + 3) / 4 * 4

def bytes (distance : Nat) (r : DraftRecord) : List UInt8 :=
  Draft.wordBytes distance.toUInt32 ++ Draft.wordBytes r.action ++
    Draft.wordBytes (2 * r.units.length).toUInt32 ++ r.units.flatMap Draft.unitBytes ++
    List.replicate (r.size - r.length) 0

def layout : List DraftRecord → List UInt8
  | [] => []
  | [r] => r.bytes 0
  | r :: rs => r.bytes r.size ++ layout rs

def placed (offset : Nat) : List DraftRecord → List Record
  | [] => []
  | r :: rs => ⟨offset, r.action, r.units.flatMap Draft.unitBytes⟩ :: placed (offset + r.size) rs

theorem lengthLeSize (r : DraftRecord) : r.length ≤ r.size ∧ r.size < r.length + 4 := by
  unfold size
  omega

theorem sizePositive (r : DraftRecord) : 0 < r.size := by
  have bounds := r.lengthLeSize
  unfold length Record.headLength at bounds
  omega

theorem bytesLength (distance : Nat) (r : DraftRecord) : (r.bytes distance).length = r.size := by
  have bounds := r.lengthLeSize
  simp only [bytes, Draft.wordBytes, List.length_append, List.length_cons, List.length_nil,
    Draft.unitBytesLength, List.length_replicate]
  unfold length Record.headLength at *
  omega

theorem headOfBytes {distance : Nat} {r : DraftRecord} (near : distance < 2 ^ 32)
    (small : r.size < 2 ^ 32) (rest : List UInt8) :
    Record.head? (r.bytes distance ++ rest) =
      some ⟨distance, r.action, 2 * r.units.length,
        r.units.flatMap Draft.unitBytes ++ (List.replicate (r.size - r.length) 0 ++ rest)⟩ := by
  have bounds := r.lengthLeSize
  have name : 2 * r.units.length < 2 ^ 32 := by
    unfold length Record.headLength at bounds
    omega
  simp only [bytes, Draft.wordBytes, List.cons_append, List.nil_append, List.append_assoc,
    Record.head?, Record.wordOfBytes]
  rw [show distance.toUInt32.toNat = distance from UInt32.toNat_ofNat_of_lt near,
    show (2 * r.units.length).toUInt32.toNat = 2 * r.units.length from
      UInt32.toNat_ofNat_of_lt name]

theorem readLayout (offset : Nat) (r : DraftRecord) (rs : List DraftRecord)
    (small : ∀ x ∈ r :: rs, x.size < 2 ^ 32) :
    Chain.readFrom offset (layout (r :: rs)) = ⟨placed offset (r :: rs), none⟩ := by
  induction rs generalizing offset r with
  | nil =>
    have last : 0 < 2 ^ 32 := by omega
    have known := headOfBytes last (small r (by simp)) []
    rw [List.append_nil] at known
    have length := Draft.unitBytesLength r.units
    rw [layout, Chain.readFromLast offset known (by simp only [List.length_append]; omega) rfl]
    simp only [placed, List.take_left' length]
  | cons next rs ih =>
    have known := headOfBytes (small r (by simp)) (small r (by simp)) (layout (next :: rs))
    have length := Draft.unitBytesLength r.units
    have positive := r.sizePositive
    have behind : (r.bytes r.size ++ layout (next :: rs)).drop r.size = layout (next :: rs) :=
      List.drop_left' (bytesLength r.size r)
    have name : ∀ rest, (r.units.flatMap Draft.unitBytes ++ rest).take (2 * r.units.length) =
        r.units.flatMap Draft.unitBytes := fun rest => List.take_left' length
    have tail := ih (offset + r.size) next fun x inside => small x (List.mem_cons_of_mem _ inside)
    rw [layout, Chain.readFromNext offset known (by simp only [List.length_append]; omega)
      (by simp only; omega)]
    · simp only [behind, tail, name, placed]
    · simp

end DraftRecord
end FolderWatch
