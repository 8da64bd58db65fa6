import FolderWatch.Proofs.Record.Chain
import Mathlib.Algebra.Ring.Nat

/-! The chain in a buffer by places. What stands at a place is read from the whole buffer, and the
distances there lead from place to place, until a record is the last or runs past the end. -/
namespace FolderWatch.Record

variable {bytes : List UInt8} {s o : Nat}

def wordAt (bytes : List UInt8) (place : Nat) : UInt32 :=
  word (bytes.getD place 0) (bytes.getD (place + 1) 0) (bytes.getD (place + 2) 0)
    (bytes.getD (place + 3) 0)

def distanceAt (bytes : List UInt8) (place : Nat) : Nat := (wordAt bytes place).toNat
def nameLengthAt (bytes : List UInt8) (place : Nat) : Nat := (wordAt bytes (place + 8)).toNat

def atPlace (bytes : List UInt8) (place : Nat) : Record :=
  ⟨place, wordAt bytes (place + 4),
    (bytes.drop (place + headLength)).take (nameLengthAt bytes place)⟩

def Overruns (bytes : List UInt8) (place : Nat) : Prop :=
  bytes.length < place + headLength ∨
    bytes.length < place + headLength + nameLengthAt bytes place

instance (bytes : List UInt8) (place : Nat) : Decidable (Overruns bytes place) :=
  inferInstanceAs (Decidable (_ ∨ _))

inductive Leads (bytes : List UInt8) : Nat → Nat → Prop
  | here (s : Nat) : Leads bytes s s
  | on {s o : Nat} (whole : ¬ Overruns bytes s) (more : distanceAt bytes s ≠ 0)
      (rest : Leads bytes (s + distanceAt bytes s) o) : Leads bytes s o

theorem distanceSmall (bytes : List UInt8) (place : Nat) : distanceAt bytes place < 2 ^ 32 :=
  (wordAt bytes place).toNat_lt

theorem nameLengthSmall (bytes : List UInt8) (place : Nat) : nameLengthAt bytes place < 2 ^ 32 :=
  (wordAt bytes (place + 8)).toNat_lt

theorem wordBehind (bytes : List UInt8) (s place : Nat) :
    wordAt (bytes.drop s) place = wordAt bytes (s + place) := by
  simp only [wordAt, List.getD_eq_getElem?_getD, List.getElem?_drop, Nat.add_assoc]

theorem headWhole (long : headLength ≤ bytes.length) :
    head? bytes = some ⟨distanceAt bytes 0, wordAt bytes 4, nameLengthAt bytes 0,
      bytes.drop headLength⟩ := by
  unfold headLength at *
  -- Twelve bytes are there, each shown by one more split of the list.
  rcases bytes with _ | ⟨n0, _ | ⟨n1, _ | ⟨n2, _ | ⟨n3, _ | ⟨a0, _ | ⟨a1, _ | ⟨a2, _ | ⟨a3,
    _ | ⟨l0, _ | ⟨l1, _ | ⟨l2, _ | ⟨l3, body⟩⟩⟩⟩⟩⟩⟩⟩⟩⟩⟩⟩
  case cons.cons.cons.cons.cons.cons.cons.cons.cons.cons.cons.cons => rfl
  all_goals simp at long

theorem headAt (whole : s + headLength ≤ bytes.length) :
    head? (bytes.drop s) = some ⟨distanceAt bytes s, wordAt bytes (s + 4), nameLengthAt bytes s,
      bytes.drop (s + headLength)⟩ := by
  have long : headLength ≤ (bytes.drop s).length := by
    rw [List.length_drop]
    omega
  rw [headWhole long, distanceAt, nameLengthAt, wordBehind, wordBehind, wordBehind, List.drop_drop]
  rfl

theorem headCut (short : bytes.length < s + headLength) : head? (bytes.drop s) = none := by
  have few : (bytes.drop s).length < headLength := by
    rw [List.length_drop]
    unfold headLength at *
    omega
  unfold head?
  split
  · next same =>
    rw [same] at few
    simp only [List.length_cons, headLength] at few
    omega
  · rfl

theorem nameWhole (whole : ¬ Overruns bytes s) :
    (atPlace bytes s).name.length = nameLengthAt bytes s := by
  obtain ⟨head, name⟩ := not_or.mp whole
  simp only [atPlace, List.length_take, List.length_drop]
  omega

/-- Places along a chain go up and end, so what holds of a place whenever it holds of the place
behind it holds of all. -/
theorem placeInduction {P : Nat → Prop} (bytes : List UInt8)
    (step : ∀ s, (¬ Overruns bytes s → distanceAt bytes s ≠ 0 → P (s + distanceAt bytes s)) → P s)
    (s : Nat) : P s := by
  induction left : bytes.length - s using Nat.strongRecOn generalizing s with
  | ind n ih =>
    apply step
    intro whole more
    unfold Overruns headLength at whole
    exact ih (bytes.length - (s + distanceAt bytes s)) (by omega) _ rfl

end FolderWatch.Record

namespace FolderWatch.Chain
open Record

variable {bytes : List UInt8} {s o : Nat} {r : Record}

def fromPlace (bytes : List UInt8) (s : Nat) : Chain := readFrom s (bytes.drop s)

theorem readFilled (filled : bytes ≠ []) : read bytes = fromPlace bytes 0 := by
  simp [read, fromPlace, filled]

theorem fromOverrun (beyond : Overruns bytes s) : fromPlace bytes s = ⟨[], some s⟩ := by
  unfold fromPlace
  by_cases short : bytes.length < s + headLength
  · exact readFromShort s (headCut short)
  · have long : s + headLength ≤ bytes.length := Nat.le_of_not_lt short
    apply readFromCut s (headAt long)
    simp only [List.length_drop]
    rcases beyond with cut | cut <;> omega

theorem fromLast (whole : ¬ Overruns bytes s) (last : distanceAt bytes s = 0) :
    fromPlace bytes s = ⟨[atPlace bytes s], none⟩ := by
  obtain ⟨long, named⟩ := not_or.mp whole
  have inside : s + headLength ≤ bytes.length := Nat.le_of_not_lt long
  exact readFromLast s (headAt inside) (by simp only [List.length_drop]; omega) last

theorem fromOn (whole : ¬ Overruns bytes s) (more : distanceAt bytes s ≠ 0) :
    fromPlace bytes s =
      ⟨atPlace bytes s :: (fromPlace bytes (s + distanceAt bytes s)).records,
        (fromPlace bytes (s + distanceAt bytes s)).stop⟩ := by
  obtain ⟨long, named⟩ := not_or.mp whole
  have inside : s + headLength ≤ bytes.length := Nat.le_of_not_lt long
  have next := readFromNext s (headAt inside) (by simp only [List.length_drop]; omega) more
  rw [List.drop_drop] at next
  exact next

theorem recordPlaced (s : Nat) (inside : r ∈ (fromPlace bytes s).records) :
    s ≤ r.offset ∧ Leads bytes s r.offset ∧ ¬ Overruns bytes r.offset ∧
      r = atPlace bytes r.offset := by
  induction s using placeInduction bytes with
  | step s ih =>
    by_cases beyond : Overruns bytes s
    · rw [fromOverrun beyond] at inside
      cases inside
    · by_cases last : distanceAt bytes s = 0
      · rw [fromLast beyond last] at inside
        rw [List.mem_singleton.mp inside]
        exact ⟨Nat.le_refl s, .here s, beyond, rfl⟩
      · rw [fromOn beyond last] at inside
        rcases List.mem_cons.mp inside with same | later
        · rw [same]
          exact ⟨Nat.le_refl s, .here s, beyond, rfl⟩
        · obtain ⟨behind, leads, whole, read⟩ := ih beyond last later
          exact ⟨by omega, .on beyond last leads, whole, read⟩

theorem placeRecorded (leads : Leads bytes s o) (whole : ¬ Overruns bytes o) :
    atPlace bytes o ∈ (fromPlace bytes s).records := by
  induction leads with
  | here s =>
    by_cases last : distanceAt bytes s = 0
    · rw [fromLast whole last]
      exact List.mem_cons_self
    · rw [fromOn whole last]
      exact List.mem_cons_self
  | on beyond more _ ih =>
    rw [fromOn beyond more]
    exact List.mem_cons_of_mem _ (ih whole)

theorem readPlaced (bytes : List UInt8) (r : Record) : r ∈ (read bytes).records ↔
    Leads bytes 0 r.offset ∧ ¬ Overruns bytes r.offset ∧ r = atPlace bytes r.offset := by
  by_cases filled : bytes = []
  · rw [filled]
    refine ⟨fun inside => (nomatch inside), ?_⟩
    rintro ⟨-, whole, -⟩
    have short : 0 < r.offset + headLength :=
      Nat.lt_of_lt_of_le (by decide) (Nat.le_add_left headLength r.offset)
    exact absurd (.inl short) whole
  · rw [readFilled filled]
    refine ⟨fun inside => (recordPlaced 0 inside).2, ?_⟩
    rintro ⟨leads, whole, same⟩
    rw [same]
    exact placeRecorded leads whole

theorem nameDeclared (inside : r ∈ (read bytes).records) :
    r.name.length = nameLengthAt bytes r.offset := by
  obtain ⟨-, whole, same⟩ := (readPlaced bytes r).mp inside
  exact (congrArg (·.name.length) same).trans (nameWhole whole)

theorem offsetsIncrease (bytes : List UInt8) (s : Nat) :
    ((fromPlace bytes s).records.map Record.offset).Pairwise (· < ·) := by
  induction s using placeInduction bytes with
  | step s ih =>
    by_cases beyond : Overruns bytes s
    · rw [fromOverrun beyond]
      exact .nil
    · by_cases last : distanceAt bytes s = 0
      · rw [fromLast beyond last]
        exact List.pairwise_singleton _ _
      · rw [fromOn beyond last, List.map_cons]
        refine .cons ?_ (ih beyond last)
        intro place later
        obtain ⟨r, inside, rfl⟩ := List.mem_map.mp later
        obtain ⟨behind, -⟩ := recordPlaced _ inside
        have here : (atPlace bytes s).offset = s := rfl
        omega

theorem firstOffset (s : Nat) (first : (fromPlace bytes s).records.head? = some r) :
    r.offset = s := by
  by_cases beyond : Overruns bytes s
  · rw [fromOverrun beyond] at first
    cases first
  · by_cases last : distanceAt bytes s = 0
    · rw [fromLast beyond last] at first
      cases first
      rfl
    · rw [fromOn beyond last] at first
      cases first
      rfl

theorem recordsFew (bytes : List UInt8) (s : Nat) :
    (fromPlace bytes s).records.length ≤ bytes.length - 11 - s := by
  induction s using placeInduction bytes with
  | step s ih =>
    by_cases beyond : Overruns bytes s
    · rw [fromOverrun beyond]
      exact Nat.zero_le _
    · have head := Nat.le_of_not_lt (not_or.mp beyond).1
      unfold headLength at head
      by_cases last : distanceAt bytes s = 0
      · rw [fromLast beyond last, List.length_singleton]
        omega
      · have rest := ih beyond last
        rw [fromOn beyond last, List.length_cons]
        omega

theorem stopsAt (bytes : List UInt8) (s o : Nat) :
    (fromPlace bytes s).stop = some o ↔ Leads bytes s o ∧ Overruns bytes o := by
  induction s using placeInduction bytes with
  | step s ih =>
    by_cases beyond : Overruns bytes s
    · rw [fromOverrun beyond]
      constructor
      · intro same
        cases same
        exact ⟨.here _, beyond⟩
      · rintro ⟨leads, -⟩
        cases leads with
        | here => rfl
        | on whole => exact absurd beyond whole
    · by_cases last : distanceAt bytes s = 0
      · rw [fromLast beyond last]
        constructor
        · intro same
          cases same
        · rintro ⟨leads, cut⟩
          cases leads with
          | here => exact absurd cut beyond
          | on _ more => exact absurd last more
      · rw [fromOn beyond last, ih beyond last]
        constructor
        · rintro ⟨leads, cut⟩
          exact ⟨.on beyond last leads, cut⟩
        · rintro ⟨leads, cut⟩
          cases leads with
          | here => exact absurd cut beyond
          | on _ _ rest => exact ⟨rest, cut⟩

end FolderWatch.Chain
