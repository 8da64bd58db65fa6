import FolderWatch.Proofs.Output.Printed

/-! Printing to an output that takes no more once it holds so many lines. A line is in it whole or
not at all, a refusal ends the batch, and the next batch is tried again; so what was lost at any
time is a tail of all that came. -/
namespace FolderWatch

/-- How many batches lie, with each of their lines, among the first `limit` lines, so many lines
being in front of them; a batch of none always does. -/
def batchesWithin {α : Type} (limit : Nat) : Nat → List (List α) → Nat
  | _, [] => 0
  | before, batch :: batches =>
      (if ∀ i < batch.length, before + i < limit then 1 else 0) +
        batchesWithin limit (before + batch.length) batches

namespace Printer

theorem printLineRefused {p : Printer} (full : p.sink.isFull = true) (e : TimedEvent) :
    p.printLine e = (false, p) := by
  cases line : (e.line p.format p.color).toList with
  | nil => simp [printLine, line, Sink.write, full]
  | cons c cs => simp [printLine, line, Sink.write, full]

section Limited

variable {format : OutputFormat} {color failFlush : Bool} {limit : Nat}
variable {es batch : List TimedEvent} {batches : List (List TimedEvent)} {e : TimedEvent}

def linesOf (format : OutputFormat) (color : Bool) (es : List TimedEvent) : List Char :=
  (es.map fun e => (e.line format color).toList).flatMap (· ++ ['\n'])

/-- The printer to an output of so many lines, after some events and flushes. -/
def filled (format : OutputFormat) (color failFlush : Bool) (limit : Nat) (es : List TimedEvent)
    (flushes : Nat) : Printer :=
  ⟨format, color, ⟨linesOf format color (es.take limit), flushes, some limit, failFlush⟩⟩

def Whole (format : OutputFormat) (color : Bool) (es : List TimedEvent) : Prop :=
  ∀ e ∈ es, '\n' ∉ (e.line format color).toList

theorem Whole.front {more : List TimedEvent} (whole : Whole format color (es ++ more)) :
    Whole format color es :=
  fun e inside => whole e (List.mem_append_left more inside)

theorem Whole.count (whole : Whole format color es) :
    (linesOf format color es).count '\n' = es.length := by
  have unbroken := countWhole.mpr (List.forall_mem_map.mpr whole)
  rw [linesOf, endedCount, unbroken, List.length_map, Nat.add_zero]

theorem filledFull (failFlush : Bool) (limit : Nat) (whole : Whole format color es)
    (flushes : Nat) :
    (filled format color failFlush limit es flushes).sink.isFull = decide (limit ≤ es.length) := by
  have kept : Whole format color (es.take limit) := fun e inside =>
    whole e (List.mem_of_mem_take inside)
  simp only [filled, Sink.isFull, Sink.lines, kept.count, List.length_take]
  exact decide_eq_decide.mpr (by omega)

theorem filledPast (reached : limit ≤ es.length) (more : List TimedEvent) (flushes : Nat) :
    filled format color failFlush limit (es ++ more) flushes =
      filled format color failFlush limit es flushes := by
  rw [filled, filled, List.take_append_of_le_length reached]

theorem printLineFilled (whole : Whole format color es) (own : '\n' ∉ (e.line format color).toList)
    (flushes : Nat) :
    (filled format color failFlush limit es flushes).printLine e =
      (decide (es.length < limit), filled format color failFlush limit (es ++ [e]) flushes) := by
  have full := filledFull failFlush limit whole flushes
  rcases Nat.lt_or_ge es.length limit with room | reached
  · have first : (filled format color failFlush limit es flushes).sink.isFull = false := by
      simpa [full] using room
    have held : linesOf format color (es.take limit) = linesOf format color es := by
      rw [List.take_of_length_le (Nat.le_of_lt room)]
    -- Without its end the line is no line yet, so the output has as much room as before.
    have more : ((filled format color failFlush limit es flushes).sink.holding
        (e.line format color).toList).isFull = false := by
      have unbroken := List.count_eq_zero.mpr own
      simpa [filled, Sink.holding, Sink.isFull, Sink.lines, held, whole.count, unbroken] using room
    have all : linesOf format color ((es ++ [e]).take limit) =
        linesOf format color es ++ ((e.line format color).toList ++ ['\n']) := by
      rw [List.take_of_length_le (by simpa using Nat.succ_le_of_lt room)]
      simp [linesOf]
    rw [printLineTaken first more, decide_eq_true room]
    simp only [onto, filled, Sink.holding, ended, held, all]
  · have first : (filled format color failFlush limit es flushes).sink.isFull = true := by
      simpa [full] using reached
    rw [printLineRefused first, decide_eq_false (Nat.not_lt.mpr reached), filledPast reached]

theorem printLinesFilled (whole : Whole format color (es ++ batch)) (flushes : Nat) :
    (filled format color failFlush limit es flushes).printLines batch =
      (decide (∀ i < batch.length, es.length + i < limit),
        filled format color failFlush limit (es ++ batch) flushes) := by
  induction batch generalizing es with
  | nil => simp [printLines]
  | cons e batch ih =>
    have own : '\n' ∉ (e.line format color).toList := whole e (by simp)
    rw [printLines, printLineFilled whole.front own]
    rcases Nat.lt_or_ge es.length limit with room | reached
    · have rest := ih (show Whole format color (es ++ [e] ++ batch) by simpa using whole)
      have within : (∀ i < batch.length, (es ++ [e]).length + i < limit) ↔
          ∀ i < (e :: batch).length, es.length + i < limit := by
        simp only [List.length_append, List.length_cons, List.length_nil, Nat.zero_add,
          Nat.forall_lt_succ_left]
        simp only [Nat.add_assoc, Nat.add_comm 1, Nat.add_zero, room, true_and]
      rw [decide_eq_true room]
      simp only [rest, within, List.append_assoc, List.singleton_append]
    · have refused : ¬ ∀ i < (e :: batch).length, es.length + i < limit := fun taken =>
        absurd (taken 0 (Nat.succ_pos _)) (Nat.not_lt.mpr reached)
      rw [decide_eq_false (Nat.not_lt.mpr reached), decide_eq_false refused, filledPast reached,
        filledPast reached]

theorem printFilled (whole : Whole format color (es ++ batch)) (flushes : Nat) :
    ((filled format color failFlush limit es flushes).print batch).1 =
      filled format color failFlush limit (es ++ batch)
        (flushes + if ∀ i < batch.length, es.length + i < limit then 1 else 0) := by
  rw [print, printLinesFilled whole]
  by_cases taken : ∀ i < batch.length, es.length + i < limit
  · rw [decide_eq_true taken, if_pos taken]
    rfl
  · rw [decide_eq_false taken, if_neg taken]
    rfl

theorem printAllFilled (whole : Whole format color (es ++ batches.flatten)) (flushes : Nat) :
    (filled format color failFlush limit es flushes).printAll batches =
      filled format color failFlush limit (es ++ batches.flatten)
        (flushes + batchesWithin limit es.length batches) := by
  induction batches generalizing es flushes with
  | nil => simp [printAll, batchesWithin]
  | cons batch batches ih =>
    rw [List.flatten_cons, ← List.append_assoc] at whole
    rw [printAll, printFilled whole.front, ih whole, List.flatten_cons, List.append_assoc,
      batchesWithin, List.length_append, Nat.add_assoc]

theorem framedWhole (framed : format = .json ∨ ∀ e ∈ es, '\n' ∉ e.event.path.toList) :
    Whole format color es := by
  intro e inside
  cases format with
  | json => exact fun broken => absurd (e.jsonLineShown '\n' broken) (by decide)
  | text =>
    have path := framed.resolve_left (by decide) e inside
    rw [← List.count_eq_zero] at path ⊢
    exact (TimedEvent.textLineBreaks color e.event).trans path

/-- After every batch the output holds the first lines of all that came, as many as its limit allows,
each whole with its end, and it was flushed once for each batch of which it took every line. -/
theorem onlyTailLost (format : OutputFormat) (color failFlush : Bool) (limit : Nat)
    (batches : List (List TimedEvent))
    (framed : format = .json ∨ ∀ e ∈ batches.flatten, '\n' ∉ e.event.path.toList) (n : Nat) :
    let came := batches.take n
    let lines := came.flatten.map fun e => (e.line format color).toList
    let taken := lines.take (min limit came.flatten.length)
    let sink := (printAll ⟨format, color, ⟨[], 0, some limit, failFlush⟩⟩ came).sink
    sink.held = taken.flatMap (· ++ ['\n']) ∧ sink.held.splitOn '\n' = taken ++ [[]] ∧
      sink.flushes = batchesWithin limit 0 came := by
  intro came lines taken sink
  have own : format = .json ∨ ∀ e ∈ came.flatten, '\n' ∉ e.event.path.toList := by
    refine framed.imp_right fun whole e inside => whole e ?_
    obtain ⟨batch, among, member⟩ := List.mem_flatten.mp inside
    exact List.mem_flatten.mpr ⟨batch, List.mem_of_mem_take among, member⟩
  have whole : Whole format color came.flatten := framedWhole own
  have printed : printAll ⟨format, color, ⟨[], 0, some limit, failFlush⟩⟩ came =
      filled format color failFlush limit came.flatten (batchesWithin limit 0 came) := by
    have start : (⟨format, color, ⟨[], 0, some limit, failFlush⟩⟩ : Printer) =
        filled format color failFlush limit [] 0 := by
      simp [filled, linesOf]
    rw [start, printAllFilled whole, List.nil_append, Nat.zero_add, List.length_nil]
  have kept : taken = (came.flatten.take limit).map fun e => (e.line format color).toList := by
    have count : lines.length = came.flatten.length := List.length_map _
    rw [List.map_take, List.take_eq_take_iff, count]
    omega
  have held : sink.held = taken.flatMap (· ++ ['\n']) := by
    rw [kept]
    exact congrArg (fun p => p.sink.held) printed
  refine ⟨held, ?_, congrArg (fun p => p.sink.flushes) printed⟩
  rw [held, cutWhole, kept, List.forall_mem_map]
  exact fun e inside => whole e (List.mem_of_mem_take inside)

/-- The second of four batches is taken but for its last line; neither it nor the last one is
flushed, and that flushing fails changes nothing. -/
theorem limitInsideBatch :
    let event (path : String) (flags : List Flag) : TimedEvent := ⟨⟨path, ⟨flags⟩⟩, ⟨0, 0⟩⟩
    let batches := [[event "a" [.created]], [event "" [], event "b" [], event "c" [.removed]], [],
      [event "d" []]]
    let sink (n : Nat) := (printAll ⟨.text, false, ⟨[], 0, some 3, true⟩⟩ (batches.take n)).sink
    (∀ e ∈ batches.flatten, '\n' ∉ e.event.path.toList) ∧
      (sink 1).held = "a Created\n".toList ∧ (sink 1).flushes = 1 ∧
      (sink 4).held = "a Created\n\nb\n".toList ∧ (sink 4).flushes = 2 := by
  intro event batches sink
  have framed : ∀ e ∈ batches.flatten, '\n' ∉ e.event.path.toList := by decide +kernel
  obtain ⟨first, -, once⟩ := onlyTailLost .text false true 3 batches (.inr framed) 1
  obtain ⟨held, -, twice⟩ := onlyTailLost .text false true 3 batches (.inr framed) 4
  exact ⟨framed, first.trans (by decide +kernel), once.trans (by decide +kernel),
    held.trans (by decide +kernel), twice.trans (by decide +kernel)⟩

end Limited
end Printer
end FolderWatch
