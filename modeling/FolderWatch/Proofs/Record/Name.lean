import FolderWatch.Proofs.Record.Cut
import FolderWatch.Proofs.Text.Surrogate
import FolderWatch.Record.Cursor

/-! The names in records. They read as text unit by unit, and an event names an entry of its folder
by them, unless all there is of the name is half a unit. -/
namespace FolderWatch

theorem Folder.entrySame {f : Folder} {one other : String} :
    f.entry one = f.entry other ↔ one = other := by
  unfold entry
  split <;> simp only [String.append_assoc, String.append_right_inj]

theorem Utf16.decodeEmpty (units : List UInt16) : decode units = [] ↔ units = [] := by
  rcases units with _ | ⟨u, _ | ⟨v, rest⟩⟩
  · simp [decode]
  · simp [decode]
  · simp only [decode]
    split <;> simp

namespace Record

variable {r : Record} {rs : List Record} {folder : Folder}

theorem unitsEmpty (bytes : List UInt8) : unitsOf bytes = [] ↔ bytes.length ≤ 1 := by
  rcases bytes with _ | ⟨low, _ | ⟨high, rest⟩⟩ <;> simp [unitsOf]

theorem textEmpty (r : Record) : r.text = "" ↔ r.name.length ≤ 1 := by
  -- A single byte is a name by its length, but holds no unit.
  rw [text, String.ofList_eq_empty_iff, Utf16.decodeEmpty, units, unitsEmpty]

theorem textUnits (r : Record) : r.text.toList = Utf16.decode r.units := String.toList_ofList

theorem eventNone : r.event? folder = none ↔ r.name.length = 0 := by
  simp [event?]

theorem eventSome (filled : 0 < r.name.length) :
    r.event? folder = some ⟨folder.entry r.text, FlagSet.ofCode r.action⟩ := by
  have some : r.name.isEmpty = false := List.isEmpty_eq_false_iff.mpr (List.length_pos_iff.mp filled)
  simp only [event?, some, Bool.false_eq_true, if_false]

theorem eventsOf (rs : List Record) : rs.filterMap (·.event? folder) =
    (rs.filter (0 < ·.name.length)).map fun r =>
      ⟨folder.entry r.text, FlagSet.ofCode r.action⟩ := by
  induction rs with
  | nil => rfl
  | cons r rs ih =>
    by_cases filled : 0 < r.name.length
    · rw [List.filterMap_cons_some (eventSome filled), ih]
      simp only [List.filter_cons, filled, decide_true, if_true, List.map_cons]
    · rw [List.filterMap_cons_none (eventNone.mpr (Nat.eq_zero_of_not_pos filled)), ih]
      simp only [List.filter_cons, filled, decide_false, Bool.false_eq_true, if_false]

def Named (folder : Folder) (events : List Event) : Prop :=
  ∀ e ∈ events, ∃ name, name ≠ "" ∧ e.path = folder.entry name

theorem namedIff : Named folder (rs.filterMap (·.event? folder)) ↔
    ∀ r ∈ rs, r.name.length ≠ 1 := by
  rw [eventsOf]
  constructor
  · intro named r inside single
    have event : (⟨folder.entry r.text, FlagSet.ofCode r.action⟩ : Event) ∈
        (rs.filter (0 < ·.name.length)).map fun r =>
          ⟨folder.entry r.text, FlagSet.ofCode r.action⟩ :=
      List.mem_map.mpr ⟨r, List.mem_filter.mpr ⟨inside, by simp [single]⟩, rfl⟩
    obtain ⟨name, filled, path⟩ := named _ event
    rw [← Folder.entrySame.mp path] at filled
    exact filled ((textEmpty r).mpr (Nat.le_of_eq single))
  · intro whole e inside
    obtain ⟨r, member, rfl⟩ := List.mem_map.mp inside
    obtain ⟨inside, filled⟩ := List.mem_filter.mp member
    have positive : 0 < r.name.length := of_decide_eq_true filled
    have more := whole r inside
    refine ⟨r.text, ?_, rfl⟩
    rw [ne_eq, textEmpty]
    omega

theorem skippedIff : (∀ r ∈ rs, r.text = "" → r.event? folder = none) ↔
    ∀ r ∈ rs, r.name.length ≠ 1 := by
  simp only [textEmpty, eventNone]
  constructor
  · intro skipped r inside single
    have nothing := skipped r inside (Nat.le_of_eq single)
    omega
  · intro whole r inside short
    have more := whole r inside
    omega

/-- Which events are read from a buffer, and that they all name an entry exactly if no record's name
is a single byte. -/
theorem eventsNamedUnlessOneByte (buffer : List UInt8) (returned : Nat) (folder : Folder) :
    let chain := Chain.read (Cursor.ofBuffer buffer returned).bytes
    chain.events folder = (chain.records.filter (0 < ·.name.length)).map (fun r =>
      ⟨folder.entry r.text, FlagSet.ofCode r.action⟩) ∧
    (∀ r : Record, r.text = "" ↔ r.name.length ≤ 1) ∧
    (Named folder (chain.events folder) ↔ ∀ r ∈ chain.records, r.name.length ≠ 1) ∧
    ((∀ r ∈ chain.records, r.text = "" → r.event? folder = none) ↔
      ∀ r ∈ chain.records, r.name.length ≠ 1) :=
  ⟨eventsOf _, textEmpty, namedIff, skippedIff⟩

/-- A name of the one byte `61` makes an event of the folder itself, with a separator behind it. -/
theorem oneByteNamesNothing : ¬ ∀ (buffer : List UInt8) (returned : Nat) (folder : Folder),
    Named folder ((Chain.read (Cursor.ofBuffer buffer returned).bytes).events folder) := by
  intro named
  have read : Chain.read (Cursor.ofBuffer [0, 0, 0, 0, 1, 0, 0, 0, 1, 0, 0, 0, 0x61] 13).bytes =
      ⟨[⟨0, 1, [0x61]⟩], none⟩ := by
    decide +kernel
  have all := named [0, 0, 0, 0, 1, 0, 0, 0, 1, 0, 0, 0, 0x61] 13 (.ofText "d")
  rw [read] at all
  exact namedIff.mp all ⟨0, 1, [0x61]⟩ List.mem_cons_self rfl

theorem namesReadUnitByUnit (r other : Record) :
    ((Utf16.encode r.text.toList).length = r.units.length ∧
      ∀ i, (Utf16.encode r.text.toList)[i]? =
        r.units[i]?.map fun u => if Utf16.unpaired r.units i then 0xFFFD else u) ∧
    ((∀ i, Utf16.unpaired r.units i = false) → Utf16.encode r.text.toList = r.units) ∧
    (r.text = other.text ↔ Utf16.repaired r.units = Utf16.repaired other.units) ∧
    (∀ units : List UInt16, unitsOf (units.flatMap Draft.unitBytes) = units) ∧
    ∀ bytes raw : List UInt8, r ∈ (Chain.read bytes).records →
      raw.take (r.offset + headLength + r.name.length) =
        bytes.take (r.offset + headLength + r.name.length) →
      (bytes.length ≤ raw.length → r ∈ (Chain.read raw).records) ∧
        ∀ q ∈ (Chain.read raw).records, q.offset = r.offset → q = r := by
  have again : Utf16.encode r.text.toList = Utf16.repaired r.units := by
    rw [textUnits, Utf16.encodeDecode]
  rw [again]
  refine ⟨⟨Utf16.repairedLength _, Utf16.repairedAt _⟩, Utf16.repairedWhole, ?_, unitsOfBytes, ?_⟩
  · rw [← Utf16.decodeSame, ← textUnits, ← textUnits, String.toList_inj]
  · intro bytes raw member same
    exact ⟨Chain.recordShared member same, fun q => Chain.recordSame member same⟩

theorem surrogatesReadInPlace :
    let run : Record := ⟨0, 1, [0xD83D, 0xD83D, 0xDE00, 0xDE00].flatMap Draft.unitBytes⟩
    let pair : Record := ⟨0, 1, [0xD83D, 0xDE00].flatMap Draft.unitBytes⟩
    let bytes := [0, 0, 0, 0, 1, 0, 0, 0, 4, 0, 0, 0] ++ pair.name
    (Utf16.encode run.text.toList)[0]? = some 0xFFFD ∧
      (Utf16.encode run.text.toList)[1]? = some 0xD83D ∧
      (Utf16.encode run.text.toList)[3]? = some 0xFFFD ∧
      Utf16.encode pair.text.toList = [0xD83D, 0xDE00] ∧ run.text ≠ pair.text ∧
      pair ∈ (Chain.read (bytes ++ [0x5A, 0])).records := by
  intro run pair bytes
  obtain ⟨⟨-, positions⟩, -, same, -, -⟩ := namesReadUnitByUnit run pair
  obtain ⟨-, whole, -, -, behind⟩ := namesReadUnitByUnit pair run
  refine ⟨(positions 0).trans (by decide), (positions 1).trans (by decide),
    (positions 3).trans (by decide), ?_, fun alike => absurd (same.mp alike) (by decide), ?_⟩
  · apply whole
    rintro (_ | _ | i)
    · decide
    · decide
    · rfl
  · exact (behind bytes (bytes ++ [0x5A, 0]) (by decide +kernel) (by decide)).1 (by decide)

end Record
end FolderWatch
