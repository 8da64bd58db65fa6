import FolderWatch.Proofs.Record.Layout
import FolderWatch.Proofs.Text.Utf16
import Mathlib.Data.List.Forall2

/-! Whole runs of a writer: records are entered and buffers finished in any order. A draft always
holds the layout of what was entered since the last finish, so every buffer reads back. -/
namespace FolderWatch
namespace DraftRecord

def chained (rs : List DraftRecord) : List UInt8 := rs.flatMap fun r => r.bytes r.size

theorem chainedSnoc (rs : List DraftRecord) (r : DraftRecord) :
    chained (rs ++ [r]) = chained rs ++ r.bytes r.size := by
  simp [chained]

theorem layoutSnoc (rs : List DraftRecord) (r : DraftRecord) :
    layout (rs ++ [r]) = chained rs ++ r.bytes 0 := by
  induction rs with
  | nil => simp [layout, chained]
  | cons head rs ih =>
    have more : ∃ next tail, rs ++ [r] = next :: tail := by cases rs <;> simp
    obtain ⟨next, tail, same⟩ := more
    rw [List.cons_append, same, layout, ← same, ih]
    · simp [chained]
    · simp

theorem chainedAligned (rs : List DraftRecord) : (chained rs).length % 4 = 0 := by
  induction rs with
  | nil => rfl
  | cons r rs ih =>
    have head : (chained (r :: rs)).length = r.size + (chained rs).length := by
      simp [chained, bytesLength]
    rw [head]
    unfold size
    omega

theorem layoutLength (rs : List DraftRecord) : (layout rs).length = (rs.map size).sum := by
  induction rs with
  | nil => rfl
  | cons r rs ih =>
    cases rs with
    | nil => simp [layout, bytesLength]
    | cons next rs =>
      simp only [layout, List.length_append, bytesLength, ih, List.map_cons, List.sum_cons]

theorem placedAligned (offset : Nat) (rs : List DraftRecord) (aligned : offset % 4 = 0) :
    ∀ r ∈ placed offset rs, r.offset % 4 = 0 := by
  induction rs generalizing offset with
  | nil => simp [placed]
  | cons r rs ih =>
    have next : (offset + r.size) % 4 = 0 := by
      unfold size
      omega
    intro x inside
    rcases List.mem_cons.mp inside with rfl | inside
    · exact aligned
    · exact ih _ next x inside

theorem placedRead (offset : Nat) (rs : List DraftRecord) :
    (placed offset rs).map (fun r => (r.action, r.units)) = rs.map fun r => (r.action, r.units) := by
  induction rs generalizing offset with
  | nil => rfl
  | cons r rs ih =>
    have head : Record.units ⟨offset, r.action, r.units.flatMap Draft.unitBytes⟩ = r.units :=
      Record.unitsOfBytes r.units
    rw [placed, List.map_cons, List.map_cons, head, ih]

theorem readWritten (rs : List DraftRecord) (small : ∀ r ∈ rs, r.size < 2 ^ 32) :
    Chain.read (layout rs) = ⟨placed 0 rs, none⟩ := by
  cases rs with
  | nil => rfl
  | cons r rs =>
    have length := layoutLength (r :: rs)
    have positive := r.sizePositive
    have filled : (layout (r :: rs)).isEmpty = false := by
      rw [Bool.eq_false_iff, ne_eq, List.isEmpty_iff_length_eq_zero, length, List.map_cons,
        List.sum_cons]
      omega
    rw [Chain.read, filled, if_neg Bool.false_ne_true, readLayout 0 r rs small]

end DraftRecord

namespace Draft
open DraftRecord

inductive Holds : Draft → List DraftRecord → Prop where
  | nothing : Holds empty []
  | records (rs : List DraftRecord) (r : DraftRecord) :
      Holds ⟨chained rs ++ r.bytes 0, some (chained rs).length⟩ (rs ++ [r])

theorem holdsBytes {d : Draft} {rs : List DraftRecord} (h : d.Holds rs) : d.bytes = layout rs := by
  cases h with
  | nothing => rfl
  | records rs r => rw [layoutSnoc]

theorem overwriteLast (rs : List DraftRecord) (r : DraftRecord) :
    overwrite (chained rs ++ r.bytes 0) (chained rs).length r.size.toUInt32 =
      chained rs ++ r.bytes r.size := by
  unfold overwrite
  rw [List.take_left' rfl, ← List.drop_drop, List.drop_left' rfl]
  simp [DraftRecord.bytes, wordBytes]

theorem holdsLinked {d : Draft} {rs : List DraftRecord} (h : d.Holds rs) :
    d.linked = chained rs := by
  cases h with
  | nothing => rfl
  | records rs r =>
    have delta : (chained rs ++ r.bytes 0).length - (chained rs).length = r.size := by
      rw [List.length_append, Nat.add_sub_cancel_left, bytesLength]
    simp only [linked, delta, overwriteLast, chainedSnoc]

theorem paddedRecord (rs : List DraftRecord) (r : DraftRecord) :
    padded (chained rs ++ (wordBytes 0 ++ wordBytes r.action ++
      wordBytes (2 * r.units.length).toUInt32) ++ r.units.flatMap unitBytes) =
      chained rs ++ r.bytes 0 := by
  have aligned := chainedAligned rs
  have zeros : (4 - ((chained rs).length + r.length) % 4) % 4 = r.size - r.length := by
    unfold DraftRecord.size
    omega
  have length : (chained rs ++ (wordBytes 0 ++ wordBytes r.action ++
      wordBytes (2 * r.units.length).toUInt32) ++ r.units.flatMap unitBytes).length =
      (chained rs).length + r.length := by
    simp only [List.length_append, wordBytes, List.length_cons, List.length_nil, unitBytesLength,
      DraftRecord.length, Record.headLength]
    omega
  rw [padded, length, zeros]
  simp [DraftRecord.bytes]

theorem holdsPush {d : Draft} {rs : List DraftRecord} (h : d.Holds rs) (r : DraftRecord) :
    (d.pushUnits r.action r.units).Holds (rs ++ [r]) := by
  have before : d.bytes.length = (chained rs).length := by
    cases h with
    | nothing => rfl
    | records rs r => simp only [chainedSnoc, List.length_append, bytesLength]
  have pushed : d.pushUnits r.action r.units =
      ⟨chained rs ++ r.bytes 0, some (chained rs).length⟩ := by
    simp only [pushUnits, holdsLinked h, before, paddedRecord]
  rw [pushed]
  exact .records rs r

/-- A record to be entered: under a name, or under units that need not be one. -/
inductive Entry
  | named (action : UInt32) (name : String)
  | raw (action : UInt32) (units : List UInt16)
  deriving DecidableEq, Repr

namespace Entry

def record : Entry → DraftRecord
  | named action name => ⟨action, Utf16.encode name.toList⟩
  | raw action units => ⟨action, units⟩

def name : Entry → String
  | named _ name => name
  | raw _ units => String.ofList (Utf16.decode units)

def event? (folder : Folder) (e : Entry) : Option Event :=
  if e.record.units.isEmpty then none
  else some ⟨folder.entry e.name, FlagSet.ofCode e.record.action⟩

theorem nameDecoded (e : Entry) : String.ofList (Utf16.decode e.record.units) = e.name := by
  cases e with
  | named action name => simp [record, Entry.name, Utf16.decodeEncode]
  | raw action units => rfl

end Entry

inductive Step
  | enter (e : Entry)
  | finish
  deriving DecidableEq, Repr

def enter (d : Draft) : Entry → Draft
  | .named action name => d.push action name
  | .raw action units => d.pushUnits action units

def run (d : Draft) : List Step → Draft × List (List UInt8)
  | [] => (d, [])
  | .enter e :: steps => run (d.enter e) steps
  | .finish :: steps =>
      let (bytes, d) := d.finish
      let (last, buffers) := run d steps
      (last, bytes :: buffers)

def sections (unfinished : List Entry) : List Step → List Entry × List (List Entry)
  | [] => (unfinished, [])
  | .enter e :: steps => sections (unfinished ++ [e]) steps
  | .finish :: steps =>
      let (left, done) := sections [] steps
      (left, unfinished :: done)

structure ReadsBack (entries : List Entry) (buffer : List UInt8) : Prop where
  records : (Chain.read buffer).records.map (fun r => (r.action, r.units)) =
    entries.map fun e => (e.record.action, e.record.units)
  whole : (Chain.read buffer).fault? = none
  first : ∀ r, (Chain.read buffer).records.head? = some r → r.offset = 0
  aligned : ∀ r ∈ (Chain.read buffer).records, r.offset % 4 = 0
  names : (Chain.read buffer).records.map Record.text = entries.map Entry.name
  events : ∀ folder, (Chain.read buffer).events folder = entries.filterMap (Entry.event? folder)

theorem holdsEnter {d : Draft} {rs : List DraftRecord} (h : d.Holds rs) (e : Entry) :
    (d.enter e).Holds (rs ++ [e.record]) := by
  cases e with
  | named action name => exact holdsPush h ⟨action, Utf16.encode name.toList⟩
  | raw action units => exact holdsPush h ⟨action, units⟩

theorem unitBytesEmpty (units : List UInt16) :
    (units.flatMap unitBytes).isEmpty = units.isEmpty := by
  cases units <;> rfl

theorem placedNames (offset : Nat) (entries : List Entry) :
    (placed offset (entries.map Entry.record)).map Record.text = entries.map Entry.name := by
  induction entries generalizing offset with
  | nil => rfl
  | cons e entries ih =>
    simp only [List.map_cons, placed, ih, Record.text, Record.units, Record.unitsOfBytes,
      Entry.nameDecoded]

theorem placedEvents (folder : Folder) (offset : Nat) (entries : List Entry) :
    (placed offset (entries.map Entry.record)).filterMap (·.event? folder) =
      entries.filterMap (Entry.event? folder) := by
  induction entries generalizing offset with
  | nil => rfl
  | cons e entries ih =>
    have head : ∀ offset, Record.event? folder ⟨offset, e.record.action,
        e.record.units.flatMap unitBytes⟩ = e.event? folder := by
      intro offset
      simp only [Record.event?, Entry.event?, Record.text, Record.units, Record.unitsOfBytes,
        Entry.nameDecoded, unitBytesEmpty]
    simp only [List.map_cons, placed, List.filterMap_cons, head, ih]

theorem readsBack (entries : List Entry) (small : ∀ e ∈ entries, e.record.size < 2 ^ 32) :
    ReadsBack entries (layout (entries.map Entry.record)) := by
  have read : Chain.read (layout (entries.map Entry.record)) =
      ⟨placed 0 (entries.map Entry.record), none⟩ := by
    apply readWritten
    intro r inside
    obtain ⟨e, member, rfl⟩ := List.mem_map.mp inside
    exact small e member
  constructor
  case records => rw [read, placedRead, List.map_map]; rfl
  case whole => rw [read]; rfl
  case first =>
    rw [read]
    intro r head
    cases entries with
    | nil => simp [placed] at head
    | cons e entries => cases Option.some.inj head; rfl
  case aligned => rw [read]; exact placedAligned 0 _ rfl
  case names => rw [read, placedNames]
  case events => intro folder; rw [read, Chain.events, placedEvents]

def written (entries : List Entry) : List UInt8 := layout (entries.map Entry.record)

theorem runWritten {d : Draft} (unfinished : List Entry) (steps : List Step)
    (held : d.Holds (unfinished.map Entry.record)) :
    (d.run steps).1.Holds ((sections unfinished steps).1.map Entry.record) ∧
      (d.run steps).2 = (sections unfinished steps).2.map written := by
  induction steps generalizing d unfinished with
  | nil => exact ⟨held, rfl⟩
  | cons step steps ih =>
    cases step with
    | enter e =>
      have next : (d.enter e).Holds ((unfinished ++ [e]).map Entry.record) := by
        rw [List.map_append]
        exact holdsEnter held e
      exact ih _ next
    | finish =>
      obtain ⟨last, buffers⟩ := ih (d := d.finish.2) [] Holds.nothing
      have buffer : d.finish.1 = written unfinished := holdsBytes held
      exact ⟨last, congr (congrArg List.cons buffer) buffers⟩

theorem sectionsEntered (unfinished : List Entry) (steps : List Step) :
    ∀ entries ∈ (sections unfinished steps).2, ∀ e ∈ entries,
      e ∈ unfinished ∨ .enter e ∈ steps := by
  induction steps generalizing unfinished with
  | nil => intro entries inside; cases inside
  | cons step steps ih =>
    intro entries inside e member
    cases step with
    | enter first =>
      rcases ih _ entries inside e member with before | later
      · rcases List.mem_append.mp before with old | new
        · exact .inl old
        · rw [List.mem_singleton.mp new]
          exact .inr List.mem_cons_self
      · exact .inr (List.mem_cons_of_mem _ later)
    | finish =>
      rcases List.mem_cons.mp inside with rfl | inside
      · exact .inl member
      · rcases ih [] entries inside e member with none | later
        · cases none
        · exact .inr (List.mem_cons_of_mem _ later)

theorem runSections {d : Draft} (unfinished : List Entry) (steps : List Step)
    (held : d.Holds (unfinished.map Entry.record))
    (before : ∀ e ∈ unfinished, e.record.size < 2 ^ 32)
    (small : ∀ e, .enter e ∈ steps → e.record.size < 2 ^ 32) :
    (d.run steps).1.Holds ((sections unfinished steps).1.map Entry.record) ∧
      List.Forall₂ ReadsBack (sections unfinished steps).2 (d.run steps).2 := by
  obtain ⟨last, buffers⟩ := runWritten unfinished steps held
  refine ⟨last, ?_⟩
  rw [buffers, List.forall₂_map_right_iff, List.forall₂_same]
  intro entries inside
  apply readsBack
  intro e member
  rcases sectionsEntered unfinished steps entries inside e member with old | entered
  · exact before e old
  · exact small e entered

theorem writerRunReadsBack (steps : List Step)
    (small : ∀ e, .enter e ∈ steps → e.record.size < 2 ^ 32) :
    List.Forall₂ ReadsBack (sections [] steps).2 (empty.run steps).2 ∧
      (empty.run steps).1.size = ((sections [] steps).1.map fun e => e.record.size).sum ∧
      ∀ d : Draft, d.finish.2 = empty := by
  have run := runSections [] steps Holds.nothing (by simp) small
  refine ⟨run.2, ?_, fun d => rfl⟩
  rw [Draft.size, holdsBytes run.1, layoutLength, List.map_map]
  rfl

theorem mixedRunReadsBack :
    let steps : List Step := [.enter (.named 1 "a😀"), .enter (.raw 2 [0xD800]),
      .enter (.raw 3 []), .finish, .finish, .enter (.named 4 "b")]
    List.Forall₂ ReadsBack (sections [] steps).2 (empty.run steps).2 ∧
      (empty.run steps).1.size = 16 := by
  intro steps
  have small : ∀ e, .enter e ∈ steps → e.record.size < 2 ^ 32 := by
    intro e inside
    simp only [steps, List.mem_cons, Step.enter.injEq, reduceCtorEq, List.not_mem_nil, or_false,
      false_or] at inside
    rcases inside with rfl | rfl | rfl | rfl <;> decide
  obtain ⟨back, size, -⟩ := writerRunReadsBack steps small
  exact ⟨back, size.trans (by decide)⟩

end Draft
end FolderWatch
