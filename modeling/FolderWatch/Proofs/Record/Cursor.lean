import FolderWatch.Proofs.Record.Place
import FolderWatch.Record.Cursor

/-! Reading to the end, call by call, whatever the bytes are. Every call is over without a slip, the
calls give what the chain holds, and then nothing more comes. -/
namespace FolderWatch

/-- Called until nothing more comes, a reader gives these items and is left in this state. -/
inductive Yields {σ α : Type} (call : σ → Except Slip (Option α × σ)) : σ → List α → σ → Prop
  | ended {c d : σ} (nothing : call c = .ok (none, d)) : Yields call c [] d
  | item {c d e : σ} {x : α} {xs : List α} (one : call c = .ok (some x, d))
      (rest : Yields call d xs e) : Yields call c (x :: xs) e

theorem Yields.sameCall {σ α : Type} {call : σ → Except Slip (Option α × σ)} {c d e : σ}
    {xs : List α} (same : call c = call d) (yields : Yields call d xs e) : Yields call c xs e := by
  cases yields with
  | ended nothing => exact .ended (same.trans nothing)
  | item one rest => exact .item (same.trans one) rest

def Chain.items {α : Type} (given : List α) (c : Chain) : List (Except Fault α) :=
  given.map .ok ++ c.fault?.toList.map .error

namespace Cursor
open Record

variable {bytes : List UInt8} {s o : Nat} {folder : Folder}

theorem sumSmall {a b : Nat} (small : a + b < wordLimit) : sum? a b = some (a + b) :=
  if_pos small

theorem sliceWhole {start stop : Nat} (order : start ≤ stop) (fits : stop ≤ bytes.length) :
    slice? bytes start stop = some ((bytes.drop start).take (stop - start)) :=
  if_pos ⟨order, fits⟩

theorem sliceCut {start stop : Nat} (long : bytes.length < stop) : slice? bytes start stop = none :=
  if_neg fun fits => Nat.not_le.mpr long fits.2

theorem byteThere {place : Nat} (there : place < bytes.length) :
    byte bytes place = .ok (bytes.getD place 0) := by
  have found : bytes[place]? = some bytes[place] := List.getElem?_eq_getElem there
  simp only [byte, found, List.getD_eq_getElem?_getD, Option.getD_some]

theorem wordThere {place : Nat} (there : place + 4 ≤ bytes.length) :
    word bytes place = .ok (wordAt bytes place) := by
  unfold word
  rw [byteThere (by omega), byteThere (by omega), byteThere (by omega), byteThere (by omega)]
  rfl

theorem fieldsThere {head : List UInt8} (whole : head.length = headLength) :
    fields head = .ok (wordAt head 0, wordAt head 4, wordAt head 8) := by
  unfold headLength at whole
  unfold fields
  rw [wordThere (by omega), wordThere (by omega), wordThere (by omega)]
  rfl

theorem wordTaken {place n : Nat} (inside : place + 4 ≤ n) :
    wordAt ((bytes.drop s).take n) place = wordAt bytes (s + place) := by
  have taken : ∀ i, i < n → ((bytes.drop s).take n).getD i 0 = bytes.getD (s + i) 0 := by
    intro i small
    simp only [List.getD_eq_getElem?_getD, List.getElem?_take, small, if_true, List.getElem?_drop]
  simp only [wordAt, taken place (by omega), taken (place + 1) (by omega),
    taken (place + 2) (by omega), taken (place + 3) (by omega), Nat.add_assoc]

section Call

variable (held : bytes.length < 2 ^ 63) (near : s < bytes.length + 2 ^ 32)

theorem limitIs : wordLimit = 2 ^ 64 := by decide

include held near in
theorem headSum : sum? s headLength = some (s + headLength) := by
  apply sumSmall
  rw [limitIs, headLength]
  omega

include held in
theorem nextBegun (inside : s + headLength ≤ bytes.length) :
    next ⟨bytes, some s⟩ =
      match slice? bytes (s + headLength) (s + headLength + nameLengthAt bytes s) with
      | none => .ok (some (.error (.malformedRecord s)), ⟨bytes, none⟩)
      | some name =>
          .ok (some (.ok ⟨s, wordAt bytes (s + 4), name⟩),
            ⟨bytes, if wordAt bytes s = 0 then none else some (s + distanceAt bytes s)⟩) := by
  have distance := distanceSmall bytes s
  have length := nameLengthSmall bytes s
  have near : s < bytes.length + 2 ^ 32 := by
    unfold headLength at inside
    omega
  have sized : ((bytes.drop s).take (s + headLength - s)).length = headLength := by
    rw [List.length_take, List.length_drop]
    omega
  have further : sum? s (wordAt bytes s).toNat = some (s + distanceAt bytes s) := by
    apply sumSmall
    rw [limitIs]
    unfold distanceAt at distance
    omega
  have behind : sum? (s + headLength) (wordAt bytes (s + 8)).toNat =
      some (s + headLength + nameLengthAt bytes s) := by
    apply sumSmall
    rw [limitIs]
    unfold nameLengthAt at length
    omega
  have start : sum s headLength = .ok (s + headLength) := by
    simp only [sum, headSum held near]
  have words : ∀ place, place + 4 ≤ headLength →
      wordAt ((bytes.drop s).take (s + headLength - s)) place = wordAt bytes (s + place) :=
    fun place small => wordTaken (by omega)
  cases name : slice? bytes (s + headLength) (s + headLength + nameLengthAt bytes s) <;>
    simp only [next, headSum held near, Option.bind_some, sliceWhole (Nat.le_add_right _ _) inside,
      fieldsThere sized, start, words 0 (by decide), words 4 (by decide), words 8 (by decide),
      Nat.add_zero, behind, further, name]

include held near in
theorem nextOverrun (beyond : Overruns bytes s) :
    next ⟨bytes, some s⟩ = .ok (some (.error (.malformedRecord s)), ⟨bytes, none⟩) := by
  by_cases short : bytes.length < s + headLength
  · simp only [next, headSum held near, Option.bind_some, sliceCut short]
  · have cut : bytes.length < s + headLength + nameLengthAt bytes s := beyond.resolve_left short
    rw [nextBegun held (Nat.le_of_not_lt short), sliceCut cut]

include held in
theorem nextWhole (whole : ¬ Overruns bytes s) :
    next ⟨bytes, some s⟩ = .ok (some (.ok (atPlace bytes s)),
      ⟨bytes, if distanceAt bytes s = 0 then none else some (s + distanceAt bytes s)⟩) := by
  obtain ⟨head, name⟩ := not_or.mp whole
  have zero : wordAt bytes s = 0 ↔ distanceAt bytes s = 0 := UInt32.toNat_inj.symm
  rw [nextBegun held (Nat.le_of_not_lt head),
    sliceWhole (Nat.le_add_right _ _) (Nat.le_of_not_lt name), Nat.add_sub_cancel_left]
  simp only [zero, atPlace]

theorem nextOver (bytes : List UInt8) : next ⟨bytes, none⟩ = .ok (none, ⟨bytes, none⟩) := rfl

include held in
theorem yieldsFrom (s : Nat) (near : s < bytes.length + 2 ^ 32) :
    Yields next ⟨bytes, some s⟩
      ((Chain.fromPlace bytes s).items (Chain.fromPlace bytes s).records) ⟨bytes, none⟩ := by
  induction s using placeInduction bytes with
  | step s ih =>
    by_cases beyond : Overruns bytes s
    · rw [Chain.fromOverrun beyond]
      exact .item (nextOverrun held near beyond) (.ended (nextOver bytes))
    · have call := nextWhole held beyond
      by_cases last : distanceAt bytes s = 0
      · rw [if_pos last] at call
        rw [Chain.fromLast beyond last]
        exact .item call (.ended (nextOver bytes))
      · have small := distanceSmall bytes s
        have head := Nat.le_of_not_lt (not_or.mp beyond).1
        unfold headLength at head
        rw [if_neg last] at call
        rw [Chain.fromOn beyond last]
        exact .item call (ih beyond last (by omega))

end Call

theorem leadsNear (leads : Leads bytes s o) (near : s < bytes.length + 2 ^ 32) :
    o < bytes.length + 2 ^ 32 := by
  induction leads with
  | here => exact near
  | @on s _ whole _ _ ih =>
    have small := distanceSmall bytes s
    have head := Nat.le_of_not_lt (not_or.mp whole).1
    unfold headLength at head
    exact ih (by omega)

section Change

variable {c d : Cursor}

theorem changeOver (given : c.next = .ok (none, d)) : c.change folder = .ok (none, d) := by
  rw [change]
  split <;> simp_all

theorem changeFails {fault : Fault} (given : c.next = .ok (some (.error fault), d)) :
    c.change folder = .ok (some (.error fault), d) := by
  rw [change]
  split <;> simp_all

theorem changeGives {r : Record} {e : Event} (given : c.next = .ok (some (.ok r), d))
    (named : r.event? folder = some e) : c.change folder = .ok (some (.ok e), d) := by
  rw [change]
  split <;> simp_all

theorem changePasses {r : Record} (given : c.next = .ok (some (.ok r), d))
    (nameless : r.event? folder = none) : c.change folder = d.change folder := by
  rw [change]
  split <;> simp_all

theorem changesYielded {records : List Record} {faults : List Fault}
    (yields : Yields next c (records.map .ok ++ faults.map .error) d) :
    Yields (change folder) c
      ((records.filterMap (·.event? folder)).map .ok ++ faults.map .error) d := by
  induction records generalizing c with
  | nil =>
    induction faults generalizing c with
    | nil =>
      cases yields with
      | ended nothing => exact .ended (changeOver nothing)
    | cons fault faults ih =>
      cases yields with
      | item one rest => exact .item (changeFails one) (ih rest)
  | cons r records ih =>
    cases yields with
    | item one rest =>
      cases event : r.event? folder with
      | none =>
        rw [List.filterMap_cons_none event]
        exact (ih rest).sameCall (changePasses one event)
      | some e =>
        rw [List.filterMap_cons_some event]
        exact .item (changeGives one event) (ih rest)

end Change

/-- All that reading the first `n` bytes to the end comes to. Every call ends without a slip; the
last cursor gives nothing more, now and later. -/
structure ReadOut (folder : Folder) (start : Cursor) (n : Nat) (chain : Chain) : Prop where
  filled : start.bytes.length = n
  records : ∃ last, Yields next start (chain.items chain.records) last ∧
    last.next = .ok (none, last)
  changes : ∃ last, Yields (change folder) start (chain.items (chain.events folder)) last ∧
    last.change folder = .ok (none, last)
  first : ∀ r, chain.records.head? = some r → r.offset = 0
  increasing : (chain.records.map Record.offset).Pairwise (· < ·)
  placed : ∀ r, r ∈ chain.records ↔ Leads start.bytes 0 r.offset ∧
    ¬ Overruns start.bytes r.offset ∧ r = atPlace start.bytes r.offset
  whole : ∀ r ∈ chain.records, r.name.length = nameLengthAt start.bytes r.offset ∧
    r.offset + headLength + nameLengthAt start.bytes r.offset ≤ n
  few : chain.records.length ≤ n - 11
  stops : ∀ o, chain.stop = some o ↔
    start.bytes ≠ [] ∧ Leads start.bytes 0 o ∧ Overruns start.bytes o
  sums : ∀ o, Leads start.bytes 0 o → o + headLength < wordLimit ∧
    (o + headLength ≤ n → o + headLength + nameLengthAt start.bytes o < wordLimit ∧
      o + distanceAt start.bytes o < wordLimit)

theorem readOutEmpty (folder : Folder) : ReadOut folder (ofBytes []) 0 (Chain.read []) where
  filled := rfl
  records := ⟨_, .ended rfl, rfl⟩
  changes := ⟨_, .ended (changeOver rfl), changeOver rfl⟩
  first := fun r head => nomatch head
  increasing := .nil
  placed := Chain.readPlaced []
  whole := fun r inside => nomatch inside
  few := Nat.zero_le _
  stops := fun o => ⟨fun stop => (nomatch stop), fun filled => absurd rfl filled.1⟩
  sums := by
    intro o leads
    cases leads with
    | here => decide
    | on whole => exact absurd (.inl (by decide)) whole

theorem readOutFilled (folder : Folder) (filled : bytes ≠ []) (held : bytes.length < 2 ^ 63) :
    ReadOut folder (ofBytes bytes) bytes.length (Chain.read bytes) := by
  have some : bytes.isEmpty = false := by
    rw [Bool.eq_false_iff, ne_eq, List.isEmpty_iff]
    exact filled
  have start : ofBytes bytes = ⟨bytes, .some 0⟩ := by
    simp only [ofBytes, some, Bool.false_eq_true, if_false]
  have records := yieldsFrom held 0 (by omega)
  have read := Chain.readFilled filled
  rw [start]
  constructor
  case filled => rfl
  case records => rw [read]; exact ⟨_, records, nextOver bytes⟩
  case changes => rw [read]; exact ⟨_, changesYielded records, changeOver (nextOver bytes)⟩
  case first => rw [read]; exact fun r head => Chain.firstOffset 0 head
  case increasing => rw [read]; exact Chain.offsetsIncrease bytes 0
  case placed => exact Chain.readPlaced bytes
  case whole =>
    intro r inside
    obtain ⟨-, whole, -⟩ := (Chain.readPlaced bytes r).mp inside
    exact ⟨Chain.nameDeclared inside, Nat.le_of_not_lt (not_or.mp whole).2⟩
  case few => rw [read]; exact Chain.recordsFew bytes 0
  case stops =>
    rw [read]
    exact fun o => (Chain.stopsAt bytes 0 o).trans ⟨.intro filled, And.right⟩
  case sums =>
    intro o leads
    have near : o < bytes.length + 2 ^ 32 := leadsNear leads (by omega)
    have distance := distanceSmall bytes o
    have length := nameLengthSmall bytes o
    rw [limitIs]
    dsimp only [headLength]
    refine ⟨by omega, fun inside => ⟨by omega, by omega⟩⟩

/-- The length of a buffer is a machine word, and no buffer takes more than half of what one
counts. -/
theorem hostileBytesReadOut {buffer : List UInt8} (held : buffer.length < 2 ^ 63) (returned : Nat)
    (folder : Folder) :
    ReadOut folder (ofBuffer buffer returned) (min returned buffer.length)
      (Chain.read (ofBuffer buffer returned).bytes) := by
  have filled : (buffer.take (min returned buffer.length)).length = min returned buffer.length := by
    rw [List.length_take]
    omega
  by_cases empty : buffer.take (min returned buffer.length) = []
  · rw [empty, List.length_nil] at filled
    rw [ofBuffer, empty, ← filled]
    exact readOutEmpty folder
  · have all := readOutFilled folder empty (by omega)
    rw [filled] at all
    exact all

theorem readOutOverlapping :
    let bytes : List UInt8 := [3, 0, 0, 0, 1, 0, 0, 0, 2, 0, 0, 0, 97, 0, 0, 0]
    let folder := Folder.ofText "d"
    bytes.length < 2 ^ 63 ∧
      ReadOut folder (ofBuffer bytes 99) 16 (Chain.read (ofBuffer bytes 99).bytes) ∧
      (Chain.read (ofBuffer bytes 99).bytes).stop = some 3 := by
  intro bytes folder
  have held : bytes.length < 2 ^ 63 := by decide
  have read : ReadOut folder (ofBuffer bytes 99) 16 (Chain.read (ofBuffer bytes 99).bytes) :=
    hostileBytesReadOut held 99 folder
  have three : 0 + distanceAt bytes 0 = 3 := by decide
  have leads : Leads bytes 0 3 := .on (by decide) (by decide) (by rw [three]; exact .here 3)
  exact ⟨held, read, (read.stops 3).mpr ⟨by decide, leads, by decide⟩⟩

end Cursor
end FolderWatch
