import FolderWatch.Proofs.Toml.Text
import Mathlib.Data.List.Nodup

/-! Documents of one key and value on a line, among blank lines and comments. Each is read as its
entries in their order, provided that no key is given twice. -/
namespace FolderWatch.Toml

variable {α β : Type} {c : Char} {r next : List Char} {fuel depth : Nat}

structure Item (α : Type) where
  before : Gap
  value : α
  behind : Gap

/-- An array on one line; a comma may stand behind its last item. -/
structure Row (α : Type) where
  items : List (Item α)
  comma : Bool
  last : Gap

inductive Written
  | whole (n : Nat) (small : n < 2 ^ 63)
  | boolean (b : Bool)
  | texts (row : Row Plain)

structure Pair where
  key : BareKey
  value : Written

inductive Line (α : Type)
  | blank (gap : Gap)
  | comment (indent : Gap) (remark : Remark)
  | entry (indent before after behind : Gap) (x : α)

def Item.map (f : α → β) (i : Item α) : Item β := ⟨i.before, f i.value, i.behind⟩

def Item.chars (i : Item Plain) : List Char := i.before.chars ++ (i.value.quoted ++ i.behind.chars)

namespace Row

def values (row : Row α) : List α := row.items.map Item.value

def map (f : α → β) (row : Row α) : Row β := ⟨row.items.map (Item.map f), row.comma, row.last⟩

def closing (row : Row α) : List Char :=
  (if row.comma && !row.items.isEmpty then [','] else []) ++ (row.last.chars ++ [']'])

def chars (row : Row Plain) : List Char :=
  '[' :: ([','].intercalate (row.items.map Item.chars) ++ row.closing)

end Row

theorem Row.mapValues (f : α → β) (row : Row α) : (row.map f).values = row.values.map f := by
  simp [Row.values, Row.map, Item.map, Function.comp_def]

namespace Written

def value : Written → Value
  | whole n _ => .integer n
  | boolean b => .boolean b
  | texts row => .array (row.values.map fun p => .string p.text)

def chars : Written → List Char
  | whole n _ => numeral n
  | boolean b => (if b then "true" else "false").toList
  | texts row => row.chars

end Written

namespace Pair

def entry (p : Pair) : String × Value := (p.key.name, p.value.value)

def statement (p : Pair) : Statement := .pair [] p.key.name p.value.value

end Pair

namespace Line

def entry? : Line α → Option α
  | entry _ _ _ _ x => some x
  | _ => none

def map (f : α → β) : Line α → Line β
  | blank gap => blank gap
  | comment indent remark => comment indent remark
  | entry indent before after behind x => entry indent before after behind (f x)

def chars : Line Pair → List Char
  | blank gap => gap.chars
  | comment indent remark => indent.chars ++ '#' :: remark.chars
  | entry indent before after behind p =>
      indent.chars ++ (p.key.chars ++ (before.chars ++ '=' :: (after.chars ++
        (p.value.chars ++ behind.chars))))

end Line

def entries (lines : List (Line α)) : List α := lines.filterMap Line.entry?

theorem entriesMap (f : α → β) (lines : List (Line α)) :
    entries (lines.map (Line.map f)) = (entries lines).map f := by
  rw [entries, entries, List.filterMap_map, List.map_filterMap]
  congr 1
  funext l
  cases l <;> rfl

theorem entriesAppend (lines more : List (Line α)) :
    entries (lines ++ more) = entries lines ++ entries more := by
  rw [entries, List.filterMap_append]
  rfl

def written (b : Break) (lines : List (Line Pair)) : List Char :=
  b.chars.intercalate (lines.map Line.chars)

/-- The text of lines; the last one may be blank, and a break is then the end of the text. -/
def text (b : Break) (lines : List (Line Pair)) : String := String.ofList (written b lines)

section Values

theorem scalarRead (list : c ≠ '[') (table : c ≠ '\x7b') (fuel depth : Nat) (r : List Char) :
    value? (fuel + 1) depth (c :: r) = scalarValue? (c :: r) := by
  rw [value?]
  · exact nofun
  · exact fun _ _ _ same => list (List.cons.inj same).1
  · exact fun _ _ _ same => table (List.cons.inj same).1

theorem textRead (p : Plain) (fuel depth : Nat) (apart : r.head? ≠ some '"') :
    value? (fuel + 1) depth (p.quoted ++ r) = some (.string p.text, r) := by
  have read := stringRead p apart
  rw [Plain.quoted, List.cons_append] at read ⊢
  rw [scalarRead (by decide) (by decide), scalarValue?, read]
  all_goals simp

theorem itemRead (i : Item Plain) (g : Gap) (fuel depth : Nat) (mark : c = ',' ∨ c = ']') :
    skipFiller false (i.chars ++ (g.chars ++ c :: r)) =
        i.value.quoted ++ (i.behind.chars ++ (g.chars ++ c :: r)) ∧
      value? (fuel + 1) depth (i.value.quoted ++ (i.behind.chars ++ (g.chars ++ c :: r))) =
        some (.string i.value.text, i.behind.chars ++ (g.chars ++ c :: r)) ∧
      skipFiller false (i.behind.chars ++ (g.chars ++ c :: r)) = c :: r := by
  have apart : (i.behind.chars ++ (g.chars ++ c :: r)).head? ≠ some '"' := by
    intro start
    obtain blank | blank | start := gapHead i.behind start
    · contradiction
    · contradiction
    obtain blank | blank | start := gapHead g start
    · contradiction
    · contradiction
    · obtain rfl : c = '"' := by simpa using start
      simp at mark
  refine ⟨?_, textRead i.value fuel depth apart, ?_⟩
  · rw [Item.chars, List.append_assoc, List.append_assoc, Plain.quoted, List.cons_append,
      skipFillerGap i.before (.inl rfl)]
  · rw [fillerSkipped, skipFillerGap g (.inr mark)]

theorem itemMore (i : Item Plain) (fuel depth : Nat) (r : List Char) :
    items? (fuel + 2) depth (skipFiller false (i.chars ++ ',' :: r)) =
      (items? (fuel + 1) depth (skipFiller false r)).map fun x =>
        (.string i.value.text :: x.1, x.2) := by
  obtain ⟨start, read, rest⟩ := itemRead i .none fuel depth (c := ',') (r := r) (.inl rfl)
  simp only [Gap.none, List.nil_append] at start read rest
  rw [start, items?, read]
  · simp only [bind, Option.bind, rest]
    cases items? (fuel + 1) depth (skipFiller false r) <;> rfl
  · simp [Plain.quoted]

theorem itemLast (i : Item Plain) (last : Gap) (fuel depth : Nat) (r : List Char) :
    items? (fuel + 2) depth (skipFiller false (i.chars ++ (last.chars ++ ']' :: r))) =
      some ([.string i.value.text], r) := by
  obtain ⟨start, read, rest⟩ := itemRead i last fuel depth (c := ']') (r := r) (.inr rfl)
  rw [start, items?, read]
  · simp only [bind, Option.bind, rest]
  · simp [Plain.quoted]

/-- Every item takes one call, and the bracket may take one more. -/
theorem itemsRead (items : List (Item Plain)) (comma : Bool) (last : Gap)
    (room : items.length < fuel) :
    items? fuel depth (skipFiller false ([','].intercalate (items.map Item.chars) ++
      ((⟨items, comma, last⟩ : Row Plain).closing ++ r))) =
      some (items.map fun i => .string i.value.text, r) := by
  obtain _ | fuel := fuel
  · contradiction
  have closed : ∀ fuel, items? (fuel + 1) depth (skipFiller false (last.chars ++ ']' :: r)) =
      some ([], r) := fun fuel => by simp [skipFillerGap last (c := ']'), items?]
  induction items generalizing fuel with
  | nil => simp [Row.closing, closed]
  | cons i is ih =>
    obtain _ | fuel := fuel
    · simp at room
    cases is with
    | nil =>
      cases comma with
      | true => simp [Row.closing, itemMore, closed]
      | false => simp [Row.closing, itemLast]
    | cons j js =>
      have more := ih fuel (by simpa using room)
      have same : (⟨i :: j :: js, comma, last⟩ : Row Plain).closing =
          (⟨j :: js, comma, last⟩ : Row Plain).closing := rfl
      rw [List.map_cons, List.map_cons, List.intercalate_cons_cons, ← List.map_cons, same]
      simp only [List.append_assoc, List.cons_append, List.nil_append] at more ⊢
      rw [itemMore, more]
      rfl

theorem valueRead (w : Written) (apart : Apart r) (room : w.chars.length < fuel) :
    value? fuel (depth + 1) (w.chars ++ r) = some (w.value, r) := by
  obtain _ | fuel := fuel
  · contradiction
  cases w with
  | whole n small =>
    have read := numeralRead small apart
    obtain ⟨c, cs, shape, digit, -⟩ := numeralStarts n
    have other := digitOther digit
    rw [shape, List.cons_append] at read
    rw [Written.chars, Written.value, shape, List.cons_append, scalarRead _ _, read]
    · rintro rfl
      exact other (by decide)
    · rintro rfl
      exact other (by decide)
  | boolean b => cases b <;> simp [Written.chars, Written.value, value?, scalarValue?]
  | texts row =>
    have enough : row.items.length < fuel := by
      have counted := joinedCounted (row.items.map Item.chars)
      rw [List.length_map] at counted
      simp only [Written.chars, Row.chars, Row.closing, List.length_cons,
        List.length_append] at room
      omega
    rw [Written.chars, Row.chars, List.cons_append, value?, List.append_assoc,
      itemsRead row.items row.comma row.last enough]
    simp [Written.value, Row.values]

theorem Written.starts (w : Written) : ∃ c cs, w.chars = c :: cs ∧ isSpace c = false := by
  cases w with
  | whole n =>
    obtain ⟨c, cs, shape, digit, -⟩ := numeralStarts n
    refine ⟨c, cs, shape, ?_⟩
    suffices c ≠ ' ' ∧ c ≠ '\t' by simpa [isSpace] using this
    constructor <;> rintro rfl <;> exact absurd digit (by decide)
  | boolean b => cases b <;> exact ⟨_, _, rfl, rfl⟩
  | texts row => exact ⟨_, _, rfl, rfl⟩

end Values

theorem statementRead (p : Pair) (before after behind : Gap) (ends : Ends r next) :
    statement? (p.key.chars ++ (before.chars ++ '=' :: (after.chars ++
      (p.value.chars ++ (behind.chars ++ r))))) = some (p.statement, next) := by
  have mark : skipSpace (after.chars ++ (p.value.chars ++ (behind.chars ++ r))) =
      p.value.chars ++ (behind.chars ++ r) := by
    obtain ⟨c, cs, shape, shown⟩ := p.value.starts
    rw [shape, List.cons_append, skipGap after shown]
  have room : p.value.chars.length <
      2 * (after.chars ++ (p.value.chars ++ (behind.chars ++ r))).length + 2 := by
    simp only [List.length_append]
    omega
  obtain ⟨c, cs, shape, other⟩ := p.key.starts
  rw [statement?]
  · simp only [keyRead, bind, Option.bind, char?, if_pos, mark]
    rw [maxDepth, valueRead p.value (gapApart behind ends) room]
    simp only [gapEnds behind ends, Pair.statement]
  · rw [shape]
    exact fun _ => startOther other (by decide)
  · rw [shape]
    exact fun _ => startOther other (by decide)

theorem lineRead {ss : List Statement} (l : Line Pair) (ends : Ends r next)
    (rest : statements? fuel next = some ss) :
    statements? (fuel + 1) (l.chars ++ r) = some (l.entry?.toList.map Pair.statement ++ ss) := by
  cases l with
  | blank gap =>
    rw [Line.chars, statements?, gapSkipped, endKept ends]
    cases ends with
    | last =>
      -- The reader is at the end of the text here, and it is there for what is left as well.
      obtain _ | fuel := fuel
      · contradiction
      · simpa [statements?, skipSpace, Line.entry?] using rest
    | broken b => cases b <;> simpa [Break.chars, newline?, Line.entry?] using rest
  | comment indent remark =>
    rw [Line.chars, statements?, List.append_assoc, List.cons_append, skipGap indent rfl]
    simp [remarkEnds remark ends, rest, Line.entry?]
  | entry indent before after behind p =>
    have read := statementRead p before after behind ends
    obtain ⟨c, cs, shape, other⟩ := p.key.starts
    simp only [Line.chars, List.append_assoc, List.cons_append]
    rw [shape, List.cons_append] at read ⊢
    rw [statements?, skipGap indent (otherShown other)]
    -- A bare key starts with none of the characters that the reader looks for first.
    split
    · contradiction
    · next same => exact absurd same (startOther other (by decide))
    · next same => exact absurd same (startOther other (by decide))
    · next same => exact absurd same (startOther other (by decide))
    · simp [read, rest, Line.entry?]

theorem entriesCons (l : Line α) (ls : List (Line α)) :
    entries (l :: ls) = l.entry?.toList ++ entries ls := by
  cases held : l.entry? <;> simp [entries, held]

/-- A blank last line takes no fuel of its own, so the length of a text is enough for its lines. -/
theorem lastRead (l : Line Pair) (room : l.chars.length < fuel) :
    statements? fuel l.chars = some (l.entry?.toList.map Pair.statement) := by
  have ended (fuel : Nat) :
      statements? (fuel + 2) l.chars = some (l.entry?.toList.map Pair.statement) := by
    simpa using lineRead l .last (rfl : statements? (fuel + 1) [] = some [])
  obtain _ | _ | fuel := fuel
  · contradiction
  · cases l with
    | blank gap =>
      obtain empty : gap.chars = [] := by simpa [Line.chars] using room
      rw [Line.chars, empty]
      rfl
    | comment | entry => simp [Line.chars] at room
  · exact ended fuel

theorem linesRead (b : Break) (lines : List (Line Pair)) (room : (written b lines).length < fuel) :
    statements? fuel (written b lines) = some ((entries lines).map Pair.statement) := by
  induction lines generalizing fuel with
  | nil =>
    obtain _ | fuel := fuel
    · contradiction
    · rfl
  | cons l ls ih =>
    cases ls with
    | nil =>
      have alone : written b [l] = l.chars := List.intercalate_singleton
      rw [alone] at room ⊢
      rw [lastRead l room, entriesCons, entries, List.filterMap_nil, List.append_nil]
    | cons m ms =>
      have shape : written b (l :: m :: ms) = l.chars ++ (b.chars ++ written b (m :: ms)) := by
        simp [written, List.intercalate_cons_cons]
      have broken : 0 < b.chars.length := by cases b <;> decide
      obtain _ | fuel := fuel
      · contradiction
      rw [shape] at room ⊢
      simp only [List.length_append] at room
      rw [lineRead l (.broken b _) (ih (by omega)), entriesCons l, List.map_append]

section Entries

variable {es : Value.Entries}

theorem lookupNone (k : String) (es : Value.Entries) :
    Value.lookup k es = none ↔ k ∉ es.map Prod.fst := by
  rw [Value.lookup, Option.map_eq_none_iff, List.find?_eq_none]
  simp only [beq_iff_eq, List.mem_map, not_exists, not_and]

theorem pairAdded (p : Pair) (fresh : p.key.name ∉ es.map Prod.fst) :
    Built.add ⟨[], es⟩ p.statement = some ⟨[], es ++ [p.entry]⟩ := by
  have unset := (lookupNone p.key.name es).mpr fresh
  simp [Built.add, Pair.statement, Value.insertPair, Value.descend, unset, Pair.entry]

theorem pairsAdded (es : Value.Entries) (ps : List Pair)
    (once : (es.map Prod.fst ++ ps.map fun p => p.key.name).Nodup) :
    (ps.map Pair.statement).foldlM Built.add ⟨[], es⟩ = some ⟨[], es ++ ps.map Pair.entry⟩ := by
  induction ps generalizing es with
  | nil => simp
  | cons p ps ih =>
    have fresh : p.key.name ∉ es.map Prod.fst := fun inside =>
      (List.nodup_append.mp once).2.2 _ inside _ List.mem_cons_self rfl
    have more : ((es ++ [p.entry]).map Prod.fst ++ ps.map fun p => p.key.name).Nodup := by
      simpa [Pair.entry] using once
    rw [List.map_cons, List.foldlM_cons, pairAdded p fresh]
    simpa using ih _ more

end Entries

section Mark

theorem gapUnmarked (g : Gap) (unmarked : r.head? ≠ some '\uFEFF') :
    (g.chars ++ r).head? ≠ some '\uFEFF' := by
  intro start
  obtain blank | blank | start := gapHead g start
  · contradiction
  · contradiction
  · exact unmarked start

theorem lineUnmarked (l : Line Pair) (unmarked : r.head? ≠ some '\uFEFF') :
    (l.chars ++ r).head? ≠ some '\uFEFF' := by
  cases l with
  | blank gap => exact gapUnmarked gap unmarked
  | comment indent remark =>
    rw [Line.chars, List.append_assoc]
    exact gapUnmarked indent (by simp)
  | entry indent before after behind p =>
    obtain ⟨c, cs, shape, other⟩ := p.key.starts
    rw [Line.chars, List.append_assoc, shape]
    refine gapUnmarked indent ?_
    rintro ⟨⟩
    exact other (by decide)

theorem writtenUnmarked (b : Break) (lines : List (Line Pair)) :
    (written b lines).head? ≠ some '\uFEFF' := by
  obtain _ | ⟨l, _ | ⟨m, ms⟩⟩ := lines
  · simp [written]
  · simpa [written] using lineUnmarked l (r := []) (by simp)
  · simp only [written, List.map_cons, List.intercalate_cons_cons, List.append_assoc]
    exact lineUnmarked l (by cases b <;> simp [Break.chars])

end Mark

theorem documentRead (b : Break) (lines : List (Line Pair))
    (once : ((entries lines).map fun p => p.key.name).Nodup) :
    document? (text b lines) = some ((entries lines).map Pair.entry) := by
  have read := linesRead b lines (Nat.lt_succ_self _)
  have added := pairsAdded [] (entries lines) (by simpa using once)
  rw [document?, text, String.toList_ofList]
  split
  · next start => exact absurd (by rw [start]; rfl) (writtenUnmarked b lines)
  · simp [read, added]

end FolderWatch.Toml
