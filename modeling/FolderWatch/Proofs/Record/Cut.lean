import FolderWatch.Proofs.Record.Place
import FolderWatch.Proofs.Record.RoundTrip
import Mathlib.Data.List.TakeWhile

/-! Buffers that begin alike, and buffers cut short. What a place shows depends on the bytes up to
the end of its record alone, so a cut takes records away at the end and changes none before it. -/
namespace FolderWatch.Record

variable {bytes other : List UInt8} {k n s : Nat}

section Shared

variable (same : other.take n = bytes.take n)

include same

theorem wordShared {place : Nat} (inside : place + 4 ≤ n) :
    wordAt other place = wordAt bytes place := by
  have byte : ∀ i, i < n → other.getD i 0 = bytes.getD i 0 := by
    intro i small
    have taken := congrArg (·.getD i 0) same
    simpa [List.getD_eq_getElem?_getD, List.getElem?_take, small] using taken
  simp only [wordAt, byte place (by omega), byte (place + 1) (by omega),
    byte (place + 2) (by omega), byte (place + 3) (by omega)]

theorem distanceShared (inside : s + headLength ≤ n) : distanceAt other s = distanceAt bytes s := by
  unfold headLength at inside
  rw [distanceAt, distanceAt, wordShared same (by omega)]

theorem nameLengthShared (inside : s + headLength ≤ n) :
    nameLengthAt other s = nameLengthAt bytes s := by
  unfold headLength at inside
  rw [nameLengthAt, nameLengthAt, wordShared same (by omega)]

theorem placeShared (inside : s + headLength + nameLengthAt bytes s ≤ n) :
    atPlace other s = atPlace bytes s := by
  have head : s + headLength ≤ n := by omega
  have action : wordAt other (s + 4) = wordAt bytes (s + 4) := by
    unfold headLength at head
    exact wordShared same (by omega)
  have name : ∀ raw : List UInt8,
      (raw.drop (s + headLength)).take (nameLengthAt bytes s) =
        ((raw.take n).drop (s + headLength)).take (nameLengthAt bytes s) := by
    intro raw
    rw [List.drop_take, List.take_take, Nat.min_eq_left (by omega)]
  rw [atPlace, atPlace, nameLengthShared same head, action, name other, name bytes, same]

theorem wholeShared (long : bytes.length ≤ other.length) (inside : s + headLength ≤ n)
    (whole : ¬ Overruns bytes s) : ¬ Overruns other s := by
  unfold Overruns at *
  rw [nameLengthShared same inside]
  omega

end Shared

theorem leadsUp {o : Nat} (leads : Leads bytes s o) : s ≤ o := by
  induction leads with
  | here => exact Nat.le_refl _
  | on _ _ _ ih => omega

theorem leadsShared {o : Nat} (same : other.take n = bytes.take n)
    (long : bytes.length ≤ other.length) (inside : o + headLength ≤ n) (leads : Leads bytes s o) :
    Leads other s o := by
  induction leads with
  | here => exact .here _
  | @on s o whole more rest ih =>
    have behind := leadsUp rest
    have head : s + headLength ≤ n := by omega
    have distance := distanceShared same head
    exact .on (wholeShared same long head whole) (distance ▸ more) (distance ▸ ih inside)

theorem cutShared (bytes : List UInt8) (k : Nat) : (bytes.take k).take k = bytes.take k := by
  rw [List.take_take, Nat.min_self]

theorem overrunsCut (bytes : List UInt8) (k s : Nat) :
    Overruns (bytes.take k) s ↔
      Overruns bytes s ∨ k < s + headLength + nameLengthAt bytes s := by
  unfold Overruns
  rw [List.length_take]
  by_cases short : k < s + headLength
  · omega
  · rw [nameLengthShared (cutShared bytes k) (Nat.le_of_not_lt short)]
    omega

def within (k : Nat) (r : Record) : Bool := r.offset + headLength + r.name.length ≤ k

end FolderWatch.Record

namespace FolderWatch.Chain
open Record

variable {bytes : List UInt8} {k l s : Nat} {r : Record} {rs : List Record} {stop : Option Nat}

def cut (k : Nat) (c : Chain) : Chain :=
  ⟨c.records.takeWhile (within k), ((c.records.find? (!within k ·)).map Record.offset).or c.stop⟩

theorem cutBehind (inside : within k r = true) :
    cut k ⟨r :: rs, stop⟩ = ⟨r :: (cut k ⟨rs, stop⟩).records, (cut k ⟨rs, stop⟩).stop⟩ := by
  simp [cut, inside]

theorem cutBefore (outside : within k r = false) : cut k ⟨r :: rs, stop⟩ = ⟨[], some r.offset⟩ := by
  simp [cut, outside]

theorem cutNowhere {c : Chain} (inside : ∀ r ∈ c.records, within k r = true) : c.cut k = c := by
  have none : c.records.find? (!within k ·) = none := by simpa using inside
  rw [cut, none, List.takeWhile_eq_self_iff.mpr inside]
  rfl

theorem cutFrom (bytes : List UInt8) (k s : Nat) :
    fromPlace (bytes.take k) s = (fromPlace bytes s).cut k := by
  induction s using placeInduction bytes with
  | step s ih =>
    have ends := overrunsCut bytes k s
    by_cases beyond : Overruns bytes s
    · rw [fromOverrun beyond, fromOverrun (ends.mpr (.inl beyond))]
      rfl
    · have fits : within k (atPlace bytes s) = true ↔
          s + headLength + nameLengthAt bytes s ≤ k := by
        rw [within, nameWhole beyond, decide_eq_true_iff]
        rfl
      by_cases inside : s + headLength + nameLengthAt bytes s ≤ k
      · have whole : ¬ Overruns (bytes.take k) s := by
          rw [ends]
          exact not_or.mpr ⟨beyond, Nat.not_lt.mpr inside⟩
        have record := placeShared (cutShared bytes k) inside
        have distance := distanceShared (cutShared bytes k) (s := s) (by omega)
        by_cases last : distanceAt bytes s = 0
        · rw [fromLast beyond last, fromLast whole (distance.trans last), record,
            cutBehind (fits.mpr inside)]
          rfl
        · rw [fromOn beyond last, fromOn whole (distance ▸ last), record, distance, ih beyond last,
            cutBehind (fits.mpr inside)]
      · have outside : within k (atPlace bytes s) = false := by
          rw [Bool.eq_false_iff, ne_eq, fits]
          exact inside
        rw [fromOverrun (ends.mpr (.inr (Nat.lt_of_not_le inside)))]
        by_cases last : distanceAt bytes s = 0
        · rw [fromLast beyond last, cutBefore outside]
          rfl
        · rw [fromOn beyond last, cutBefore outside]
          rfl

section Behind

variable {other : List UInt8} (member : r ∈ (read bytes).records)
  (same : other.take (r.offset + headLength + r.name.length) =
    bytes.take (r.offset + headLength + r.name.length))

include member same

theorem recordShared (long : bytes.length ≤ other.length) : r ∈ (read other).records := by
  obtain ⟨leads, whole, here⟩ := (readPlaced bytes r).mp member
  rw [nameDeclared member] at same
  have head : r.offset + headLength ≤ r.offset + headLength + nameLengthAt bytes r.offset :=
    Nat.le_add_right _ _
  exact (readPlaced other r).mpr ⟨leadsShared same long head leads,
    wholeShared same long head whole, here.trans (placeShared same (Nat.le_refl _)).symm⟩

-- A shorter buffer may not show the record at all: one before it may no longer be whole.
theorem recordSame {q : Record} (there : q ∈ (read other).records)
    (place : q.offset = r.offset) : q = r := by
  obtain ⟨-, -, here⟩ := (readPlaced bytes r).mp member
  obtain ⟨-, -, read⟩ := (readPlaced other q).mp there
  rw [nameDeclared member] at same
  rw [read, place, placeShared same (Nat.le_refl _), ← here]

end Behind

theorem readCut (bytes : List UInt8) (positive : 0 < k) :
    read (bytes.take k) = (read bytes).cut k := by
  by_cases empty : bytes = []
  · rw [empty, List.take_nil]
    rfl
  · have some : bytes.take k ≠ [] := by
      simp only [ne_eq, List.take_eq_nil_iff, not_or]
      exact ⟨Nat.ne_of_gt positive, empty⟩
    rw [readFilled empty, readFilled some, cutFrom]

theorem readShorter (bytes : List UInt8) (positive : 0 < k) (order : k ≤ l) :
    read (bytes.take k) = (read (bytes.take l)).cut k := by
  rw [← readCut (bytes.take l) positive, List.take_take, Nat.min_eq_left order]

theorem recordsKept (bytes : List UInt8) (order : k ≤ l) :
    (read (bytes.take k)).records <+: (read (bytes.take l)).records := by
  by_cases zero : k = 0
  · rw [zero]
    exact List.nil_prefix
  · rw [readShorter bytes (Nat.pos_of_ne_zero zero) order]
    exact List.takeWhile_prefix _

theorem endKept (bytes : List UInt8) (positive : 0 < k) (order : k ≤ l)
    (ended : (read (bytes.take k)).fault? = none) : read (bytes.take k) = read (bytes.take l) := by
  have short := readShorter bytes positive order
  rw [short] at ended ⊢
  apply cutNowhere
  simp only [fault?, cut, Option.map_eq_none_iff, Option.or_eq_none_iff, List.find?_eq_none] at ended
  simpa using ended.1

end FolderWatch.Chain

namespace FolderWatch.Draft
open DraftRecord

/-- What is read of a buffer cut to its first bytes: the entries up to the first one that is not
whole among them, and the stop there. -/
structure ReadsCut (k : Nat) (entries : List Entry) (buffer : List UInt8) : Prop where
  records : (Chain.read (buffer.take k)).records =
    (placed 0 (entries.map Entry.record)).takeWhile (Record.within k)
  fault : (Chain.read (buffer.take k)).fault? =
    ((placed 0 (entries.map Entry.record)).find? (!Record.within k ·)).map
      (.malformedRecord ·.offset)
  padding : (∀ r ∈ placed 0 (entries.map Entry.record), r.within k = true) →
    Chain.read (buffer.take k) = ⟨placed 0 (entries.map Entry.record), none⟩

theorem readsCut {k : Nat} (positive : 0 < k) (entries : List Entry)
    (small : ∀ e ∈ entries, e.record.size < 2 ^ 32) : ReadsCut k entries (written entries) := by
  have whole := readWritten (entries.map Entry.record) (by simpa using small)
  have short := Chain.readCut (written entries) positive
  rw [written, whole] at short
  constructor
  case records => rw [written, short]; rfl
  case fault =>
    rw [written, short, Chain.fault?, Chain.cut, Option.or_none, Option.map_map]
    rfl
  case padding =>
    intro inside
    rw [written, short]
    exact Chain.cutNowhere inside

/-- A cut invents no record and alters none. In a buffer that a writer made it takes away the records
from the first one that it runs through, and says where that one begins. -/
theorem cutsTakeFromTheEnd :
    (∀ (bytes : List UInt8) (k l : Nat), k ≤ l →
      (Chain.read (bytes.take k)).records <+: (Chain.read (bytes.take l)).records ∧
      (∀ folder, (Chain.read (bytes.take k)).events folder <+:
        (Chain.read (bytes.take l)).events folder) ∧
      (0 < k → (Chain.read (bytes.take k)).fault? = none →
        Chain.read (bytes.take k) = Chain.read (bytes.take l))) ∧
    ∀ steps : List Step, (∀ e, .enter e ∈ steps → e.record.size < 2 ^ 32) → ∀ k, 0 < k →
      List.Forall₂ (ReadsCut k) (sections [] steps).2 (empty.run steps).2 := by
  constructor
  · intro bytes k l order
    have records := Chain.recordsKept bytes order
    exact ⟨records, fun folder => records.filterMap _,
      fun positive ended => Chain.endKept bytes positive order ended⟩
  · intro steps small k positive
    rw [(runWritten [] steps Holds.nothing).2, List.forall₂_map_right_iff, List.forall₂_same]
    intro entries inside
    apply readsCut positive
    intro e member
    rcases sectionsEntered [] steps entries inside e member with before | entered
    · cases before
    · exact small e entered

theorem cutThroughAName :
    let steps : List Step := [.enter (.named 1 "ab"), .enter (.raw 2 [0xD800]), .finish]
    ∃ buffer, (empty.run steps).2 = [buffer] ∧
      (Chain.read (buffer.take 29)).fault? = some (.malformedRecord 16) ∧
      (Chain.read (buffer.take 29)).records <+: (Chain.read (buffer.take 30)).records ∧
      Chain.read (buffer.take 30) = Chain.read (buffer.take 32) := by
  intro steps
  have small : ∀ e, .enter e ∈ steps → e.record.size < 2 ^ 32 := by
    intro e inside
    simp only [steps, List.mem_cons, Step.enter.injEq, reduceCtorEq, List.not_mem_nil, or_false]
      at inside
    rcases inside with rfl | rfl <;> decide
  obtain ⟨bytesCut, writtenCut⟩ := cutsTakeFromTheEnd
  have name := (List.forall₂_cons.mp (writtenCut steps small 29 (by decide))).1
  have padding := (List.forall₂_cons.mp (writtenCut steps small 30 (by decide))).1
  have whole := padding.padding (by decide)
  refine ⟨_, rfl, name.fault.trans (by decide), (bytesCut _ 29 30 (by decide)).1, ?_⟩
  exact (bytesCut _ 30 32 (by decide)).2.2 (by decide) (congrArg Chain.fault? whole)

end FolderWatch.Draft
