import FolderWatch.Output.Printer
import FolderWatch.Proofs.Output.Line
import FolderWatch.Record.Draft
import Mathlib.Algebra.Ring.Nat

/-! Printing to an output that takes everything. What is held in the end is every event's line with
its end behind it, in order; a path is printed as it is, so it decides how many lines that makes. -/
namespace FolderWatch

def Sink.holding (s : Sink) (cs : List Char) : Sink := { s with held := s.held ++ cs }

theorem Sink.writeTaken {s : Sink} (room : s.isFull = false) (cs : List Char) :
    s.write cs = some (s.holding cs) := by
  cases cs with
  | nil => simp [write, holding]
  | cons c cs => simp [write, holding, room]

theorem Sink.roomAlways {s : Sink} (free : s.maxLines = none) : s.isFull = false := by
  simp [isFull, free]

theorem Sink.holdingBoth (s : Sink) (first rest : List Char) :
    (s.holding first).holding rest = s.holding (first ++ rest) := by
  simp [holding]

namespace Printer

variable {p : Printer}

def ended (p : Printer) (e : TimedEvent) : List Char := (e.line p.format p.color).toList ++ ['\n']

def onto (p : Printer) (s : Sink) : Printer := { p with sink := s }

def printAll (p : Printer) : List (List TimedEvent) → Printer
  | [] => p
  | batch :: batches => (p.print batch).1.printAll batches

theorem printLineTaken {e : TimedEvent} (room : p.sink.isFull = false)
    (more : (p.sink.holding (e.line p.format p.color).toList).isFull = false) :
    p.printLine e = (true, p.onto (p.sink.holding (p.ended e))) := by
  simp only [printLine, Sink.writeTaken room, Sink.writeTaken more, Sink.holdingBoth]
  rfl

theorem printLinesTaken (free : p.sink.maxLines = none) (es : List TimedEvent) :
    p.printLines es = (true, p.onto (p.sink.holding (es.flatMap p.ended))) := by
  induction es generalizing p with
  | nil => simp [printLines, onto, Sink.holding]
  | cons e es ih =>
    have first := printLineTaken (Sink.roomAlways free) (Sink.roomAlways free) (e := e)
    have rest := ih (p := p.onto (p.sink.holding (p.ended e))) free
    rw [printLines, first, List.flatMap_cons, ← Sink.holdingBoth]
    exact rest

theorem printTaken (free : p.sink.maxLines = none) (batch : List TimedEvent) :
    (p.print batch).1 = p.onto (p.sink.holding (batch.flatMap p.ended)).flush := by
  rw [print, printLinesTaken free]
  rfl

theorem printAllHeld (free : p.sink.maxLines = none) (batches : List (List TimedEvent)) :
    (p.printAll batches).sink.held = p.sink.held ++ batches.flatten.flatMap p.ended := by
  induction batches generalizing p with
  | nil => simp [printAll]
  | cons batch batches ih =>
    rw [printAll, printTaken free, List.flatten_cons, List.flatMap_append, ← List.append_assoc]
    exact ih free

end Printer

namespace TimedEvent

theorem flagsUnbroken (flags : FlagSet) : flags.text.toList.count '\n' = 0 := by
  have names : ∀ part ∈ flags.names.map String.toList, Json.Shown part := by
    intro part inside
    obtain ⟨name, among, rfl⟩ := List.mem_map.mp inside
    obtain ⟨flag, -, rfl⟩ := List.mem_map.mp among
    cases flag <;> decide
  have shown : Json.Shown flags.text.toList := by
    rw [FlagSet.text, String.toList_intercalate]
    exact Json.joinedShown (by decide) names
  exact List.count_eq_zero.mpr fun inside => absurd (shown '\n' inside) (by decide)

theorem textLineBreaks (color : Bool) (e : Event) :
    (textLine color e).toList.count '\n' = e.path.toList.count '\n' := by
  have flags := flagsUnbroken e.flags
  cases color <;> cases empty : e.flags.isEmpty <;>
    simp [textLine, cyan, yellow, empty, flags]

end TimedEvent

section Lines

variable {lines : List (List Char)}

theorem endedCount (lines : List (List Char)) :
    (lines.flatMap (· ++ ['\n'])).count '\n' =
      lines.length + (lines.map (·.count '\n')).sum := by
  induction lines with
  | nil => rfl
  | cons line lines ih =>
    simp only [List.flatMap_cons, List.count_append, List.count_singleton_self, ih,
      List.length_cons, List.map_cons, List.sum_cons]
    omega

theorem endedCut (whole : ∀ line ∈ lines, '\n' ∉ line) :
    (lines.flatMap (· ++ ['\n'])).splitOn '\n' = lines ++ [[]] := by
  induction lines with
  | nil => rfl
  | cons line lines ih =>
    obtain ⟨first, rest⟩ := List.forall_mem_cons.mp whole
    rw [List.flatMap_cons, List.append_assoc, List.singleton_append,
      List.splitOn_append_cons_self_of_not_mem first, ih rest, List.cons_append]

theorem cutLength (cs : List Char) : (cs.splitOn '\n').length = cs.count '\n' + 1 := by
  induction cs with
  | nil => rfl
  | cons c cs ih =>
    rw [List.splitOn_cons_eq_if_modifyHead, List.count_cons]
    split <;> simp [ih]

theorem countWhole : (lines.map (·.count '\n')).sum = 0 ↔ ∀ line ∈ lines, '\n' ∉ line := by
  rw [List.sum_eq_zero_iff_forall_eq_nat, List.forall_mem_map]
  simp only [List.count_eq_zero]

theorem cutWhole : (lines.flatMap (· ++ ['\n'])).splitOn '\n' = lines ++ [[]] ↔
    ∀ line ∈ lines, '\n' ∉ line := by
  refine ⟨fun cut => ?_, endedCut⟩
  have length := congrArg List.length cut
  rw [cutLength, endedCount, List.length_append, List.length_singleton] at length
  exact countWhole.mp (by omega)

end Lines

namespace Printer

theorem printedLines (format : OutputFormat) (color failFlush : Bool)
    (batches : List (List TimedEvent)) :
    (printAll ⟨format, color, ⟨[], 0, none, failFlush⟩⟩ batches).sink.held =
      (batches.flatten.map fun e => (e.line format color).toList).flatMap (· ++ ['\n']) := by
  rw [List.flatMap_map]
  exact printAllHeld rfl batches

theorem jsonLinesWhole (color failFlush : Bool) (batches : List (List TimedEvent)) :
    (printAll ⟨.json, color, ⟨[], 0, none, failFlush⟩⟩ batches).sink.held.splitOn '\n' =
      batches.flatten.map (fun e => (e.line .json color).toList) ++ [[]] := by
  rw [printedLines, cutWhole, List.forall_mem_map]
  intro e _ inside
  exact absurd (e.jsonLineShown '\n' inside) (by decide)

/-- The printed text has the end of every event's line and the breaks of the paths, so it is the
lines of the events exactly if no path has one. -/
theorem textLinesUnlessPathsBreak (color failFlush : Bool)
    (batches : List (List TimedEvent)) :
    let events := batches.flatten
    let printed := (printAll ⟨.text, color, ⟨[], 0, none, failFlush⟩⟩ batches).sink.held
    printed.count '\n' =
        events.length + (events.map fun e => e.event.path.toList.count '\n').sum ∧
      (printed.count '\n' = events.length ↔ ∀ e ∈ events, '\n' ∉ e.event.path.toList) ∧
      (printed.splitOn '\n' = events.map (fun e => (e.line .text color).toList) ++ [[]] ↔
        ∀ e ∈ events, '\n' ∉ e.event.path.toList) := by
  intro events printed
  let lines := events.map fun e => (e.line .text color).toList
  have held : printed = lines.flatMap (· ++ ['\n']) := printedLines .text color failFlush batches
  have breaks : ∀ e : TimedEvent,
      (e.line .text color).toList.count '\n' = e.event.path.toList.count '\n' := fun e =>
    TimedEvent.textLineBreaks color e.event
  have sums : (lines.map (·.count '\n')).sum =
      (events.map fun e => e.event.path.toList.count '\n').sum := by
    simp only [lines, List.map_map, Function.comp_def, breaks]
  have whole : (∀ line ∈ lines, '\n' ∉ line) ↔ ∀ e ∈ events, '\n' ∉ e.event.path.toList := by
    simp only [lines, List.forall_mem_map, ← List.count_eq_zero, breaks]
  have length : lines.length = events.length := List.length_map _
  have count := endedCount lines
  rw [← held, sums, length] at count
  refine ⟨count, ?_, ?_⟩
  · rw [← whole, ← countWhole, sums, count]
    omega
  · rw [← whole, held]
    exact cutWhole

/-- An entry with a break in its name, as it is decoded, is printed as two lines, and neither of them
is the event's. -/
theorem nameBreaksLine : ∃ e : TimedEvent,
    (Chain.read (Draft.empty.push 1 "a\nb").finish.1).events (.ofText "d") = [e.event] ∧
      let printed := (printAll ⟨.text, false, ⟨[], 0, none, false⟩⟩ [[e]]).sink.held
      printed.count '\n' ≠ [e].length ∧
        (e.line .text false).toList ∉ printed.splitOn '\n' := by
  refine ⟨⟨⟨"d/a\nb", ⟨[.created]⟩⟩, ⟨0, 0⟩⟩, ?_, ?_, ?_⟩
  · decide +kernel
  · decide +kernel
  · decide +kernel

end Printer
end FolderWatch
