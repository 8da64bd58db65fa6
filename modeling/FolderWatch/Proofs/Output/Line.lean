import FolderWatch.Output.Line
import FolderWatch.Proofs.Output.Json

/-! Events as lines of JSON. A line holds nothing that could end it and reads back as the event it
was written for, whatever its path holds. -/
namespace FolderWatch

open Json (Field)

theorem Flag.ofNameName (flag : Flag) : ofName? flag.name = some flag := by
  cases flag <;> rfl

theorem FlagSet.namesRead (flags : FlagSet) : flags.names.mapM Flag.ofName? = some flags.toList := by
  obtain ⟨list⟩ := flags
  simp only [names]
  induction list with
  | nil => rfl
  | cons flag list ih => simp [Flag.ofNameName, ih]

theorem Event.ofParts {one other : Event} (path : one.path = other.path)
    (flags : one.flags.toList = other.flags.toList) : one = other := by
  obtain ⟨_, ⟨_⟩⟩ := one
  obtain ⟨_, ⟨_⟩⟩ := other
  cases path
  cases flags
  rfl

namespace TimedEvent

def fields (e : TimedEvent) : List (String × Field) :=
  [("path", .text e.event.path), ("flags", .texts e.event.flags.names), ("time", .text e.time.text)]

theorem jsonLineShape (e : TimedEvent) : e.jsonLine.toList = Json.ofFields e.fields := by
  have path : Json.quoted "path" = "\"path\"".toList := rfl
  have flags : Json.quoted "flags" = "\"flags\"".toList := rfl
  have time : Json.quoted "time" = "\"time\"".toList := rfl
  have own : ∀ s, (Json.quote s).toList = Json.quoted s := fun _ => rfl
  have each : String.toList ∘ Json.quote = Json.quoted := rfl
  simp [jsonLine, FlagSet.json, fields, Json.ofFields, Json.written, Field.ofMember, Field.written,
    path, flags, time, own, each]

theorem jsonLineShown (e : TimedEvent) : Json.Shown e.jsonLine.toList := by
  rw [jsonLineShape]
  exact Json.objectShown e.fields

theorem jsonLineFields (e : TimedEvent) : Json.object? e.jsonLine.toList = some e.fields := by
  rw [jsonLineShape, Json.objectRead]

theorem jsonLineSame (one other : TimedEvent) :
    one.jsonLine = other.jsonLine ↔ one.event = other.event ∧ one.time.text = other.time.text := by
  constructor
  · intro same
    have members : one.fields = other.fields := by
      rw [← Option.some_inj, ← jsonLineFields, same, jsonLineFields]
    simp only [fields, List.cons.injEq, Prod.mk.injEq, true_and, and_true, Field.text.injEq,
      Field.texts.injEq] at members
    obtain ⟨path, names, time⟩ := members
    have flags : some one.event.flags.toList = some other.event.flags.toList := by
      rw [← FlagSet.namesRead, names, FlagSet.namesRead]
    exact ⟨Event.ofParts path (Option.some.inj flags), time⟩
  · rintro ⟨event, time⟩
    rw [jsonLine, jsonLine, event, time]

/-- A line of JSON holds no control, reads back as path, flags in their order and time, and is
shared by no other event of that time, coloured or not. -/
theorem jsonLineTellsEvent (e : TimedEvent) (color : Bool) :
    (∀ c ∈ (e.line .json color).toList, 0x20 ≤ c.toNat) ∧
      Json.object? (e.line .json color).toList =
        some [("path", .text e.event.path), ("flags", .texts e.event.flags.names),
          ("time", .text e.time.text)] ∧
      e.event.flags.names.mapM Flag.ofName? = some e.event.flags.toList ∧
      ∀ (other : TimedEvent) (otherColor : Bool),
        e.line .json color = other.line .json otherColor ↔
          e.event = other.event ∧ e.time.text = other.time.text := by
  exact ⟨e.jsonLineShown, jsonLineFields e, e.event.flags.namesRead,
    fun other _ => jsonLineSame e other⟩

end TimedEvent
end FolderWatch
