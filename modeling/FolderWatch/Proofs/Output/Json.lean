import FolderWatch.Output.Json
import FolderWatch.Proofs.Text.Utf16
import FolderWatch.Text.Reader

/-! A reader of JSON objects whose members are texts or lists of texts. It knows blanks and every
escape of the format, also those the writer has no use for: a string is read as 16-bit units, and a
number behind a backslash is one of them. -/
namespace FolderWatch.Json

open Utf16 (encode encodeChar decode decodeEncode)

def isBlank (c : Char) : Bool := c = ' ' || c = '\t' || c = '\n' || c = '\r'

def mark? (mark : Char) (cs : List Char) : Option (List Char) :=
  match cs.dropWhile isBlank with
  | c :: r => if c = mark then some r else none
  | [] => none

def short? : Char → Option UInt16
  | '"' => some 0x22
  | '\\' => some 0x5C
  | '/' => some 0x2F
  | 'b' => some 0x08
  | 'f' => some 0x0C
  | 'n' => some 0x0A
  | 'r' => some 0x0D
  | 't' => some 0x09
  | _ => none

def number? (a b c d : Char) : Option UInt16 := do
  let a ← hexDigit? a
  let b ← hexDigit? b
  let c ← hexDigit? c
  let d ← hexDigit? d
  some (((a * 16 + b) * 16 + c) * 16 + d).toUInt16

def put (us : List UInt16) (rest : Option (List UInt16 × List Char)) :
    Option (List UInt16 × List Char) :=
  rest.map fun r => (us ++ r.1, r.2)

/-- The rest of a string in units. A control stands in it by an escape only. -/
def units : Reader (List UInt16)
  | '"' :: r => some ([], r)
  | '\\' :: 'u' :: a :: b :: c :: d :: r => (number? a b c d).bind fun u => put [u] (units r)
  | '\\' :: c :: r => (short? c).bind fun u => put [u] (units r)
  | c :: r => if 0x20 ≤ c.toNat then put (encodeChar c) (units r) else none
  | [] => none

def string? : Reader String := fun cs =>
  (mark? '"' cs).bind fun r => (units r).bind fun x =>
    if encode (decode x.1) = x.1 then some (String.ofList (decode x.1), x.2) else none

variable {α : Type}

/-- Items up to the closing mark, at least one; every item takes some text, so the length of the
text is fuel enough. -/
def items (close : Char) (item : Reader α) : Nat → Reader (List α)
  | 0, _ => none
  | fuel + 1, cs =>
      (item cs).bind fun x =>
        match mark? ',' x.2 with
        | some r => (items close item fuel r).map fun rest => (x.1 :: rest.1, rest.2)
        | none => (mark? close x.2).map fun r => ([x.1], r)

def sequence? (start close : Char) (item : Reader α) : Reader (List α) := fun cs =>
  (mark? start cs).bind fun r =>
    match mark? close r with
    | some r => some ([], r)
    | none => items close item r.length r

inductive Field
  | text (s : String)
  | texts (ss : List String)
  deriving DecidableEq, Repr

def field? : Reader Field := fun cs =>
  match string? cs with
  | some (s, r) => some (.text s, r)
  | none => (sequence? '[' ']' string? cs).map fun x => (.texts x.1, x.2)

def member? : Reader (String × Field) := fun cs =>
  (string? cs).bind fun name => (mark? ':' name.2).bind fun r =>
    (field? r).map fun field => ((name.1, field.1), field.2)

def object? (cs : List Char) : Option (List (String × Field)) :=
  (sequence? '\x7b' '\x7d' member? cs).bind fun x => if x.2.all isBlank then some x.1 else none

def written (start close : Char) (parts : List (List Char)) : List Char :=
  start :: ([','].intercalate parts ++ [close])

def quoted (s : String) : List Char := (quote s).toList

namespace Field

def written : Field → List Char
  | .text s => quoted s
  | .texts ss => Json.written '[' ']' (ss.map quoted)

def ofMember (m : String × Field) : List Char := quoted m.1 ++ ':' :: m.2.written

end Field

def ofFields (fields : List (String × Field)) : List Char :=
  written '\x7b' '\x7d' (fields.map Field.ofMember)

def named : List Char := ['"', '\\', '\n', '\r', '\t', '\x08', '\x0c']

variable {mark c start close : Char} {r : List Char}

theorem markRead (plain : isBlank mark = false) : mark? mark (mark :: r) = some r := by
  simp [mark?, plain]

theorem markApart (plain : isBlank c = false) (other : c ≠ mark) : mark? mark (c :: r) = none := by
  simp [mark?, plain, other]

theorem hexRead : ∀ n < 0x20, hex2 n = [(n / 16).digitChar, (n % 16).digitChar] ∧
    number? '0' '0' (n / 16).digitChar (n % 16).digitChar = some n.toUInt16 := by
  decide +kernel

theorem escapeUnnamed (unnamed : c ∉ named) :
    escape c = if c.toNat < 0x20 then ['\\', 'u', '0', '0'] ++ hex2 c.toNat else [c] := by
  simp only [named, List.mem_cons, List.not_mem_nil, or_false, not_or] at unnamed
  simp [escape, unnamed]

theorem unitsPlain (quotes : c ≠ '"') (backslash : c ≠ '\\') (shown : 0x20 ≤ c.toNat) :
    units (c :: r) = put (encodeChar c) (units r) := by
  simp [units, backslash, shown]

theorem unitsEscaped (c : Char) (r : List Char) :
    units (escape c ++ r) = put (encodeChar c) (units r) := by
  by_cases name : c ∈ named
  · simp only [named, List.mem_cons, List.not_mem_nil, or_false] at name
    rcases name with rfl | rfl | rfl | rfl | rfl | rfl | rfl <;> rfl
  rw [escapeUnnamed name]
  by_cases control : c.toNat < 0x20
  · obtain ⟨digits, number⟩ := hexRead c.toNat control
    have own : encodeChar c = [c.toNat.toUInt16] := if_pos (by omega)
    simp only [if_pos control, digits, List.cons_append, List.nil_append, units, number,
      Option.bind_some, own]
  · rw [if_neg control]
    simp only [named, List.mem_cons, not_or] at name
    exact unitsPlain name.1 name.2.1 (Nat.le_of_not_lt control)

theorem unitsQuoted (cs r : List Char) :
    units (cs.flatMap escape ++ '"' :: r) = some (encode cs, r) := by
  induction cs with
  | nil => rfl
  | cons c cs ih =>
    rw [List.flatMap_cons, List.append_assoc, unitsEscaped, ih]
    rfl

theorem quotedShape (s : String) : quoted s = '"' :: (s.toList.flatMap escape ++ ['"']) := by
  simp [quoted, quote]

theorem stringRead (s : String) (r : List Char) : string? (quoted s ++ r) = some (s, r) := by
  have shape : quoted s ++ r = '"' :: (s.toList.flatMap escape ++ '"' :: r) := by
    simp [quotedShape]
  simp [string?, shape, markRead (show isBlank '"' = false from rfl), unitsQuoted, decodeEncode]

section Sequence

variable {item : Reader α} {write : α → List Char} {xs : List α} {fuel : Nat}

theorem itemsRead (plain : isBlank close = false) (apart : close ≠ ',')
    (own : ∀ x r, item (write x ++ r) = some (x, r)) (filled : xs ≠ [])
    (enough : xs.length ≤ fuel) (r : List Char) :
    items close item fuel ([','].intercalate (xs.map write) ++ close :: r) = some (xs, r) := by
  induction xs generalizing fuel with
  | nil => exact absurd rfl filled
  | cons x xs ih =>
    obtain ⟨fuel, rfl⟩ := Nat.exists_eq_add_of_le' (Nat.le_trans (Nat.succ_pos _) enough)
    cases xs with
    | nil => simp [items, own, markRead plain, markApart plain apart]
    | cons y ys =>
      have rest := ih (List.cons_ne_nil y ys) (Nat.le_of_succ_le_succ enough)
      have comma : ∀ r, mark? ',' (',' :: r) = some r := fun _ => markRead rfl
      rw [List.map_cons, List.map_cons, List.intercalate_cons_cons, ← List.map_cons]
      simp only [items, List.append_assoc, own, List.cons_append, List.nil_append, comma, rest,
        Option.bind_some, Option.map_some]

theorem itemsFit (close : Char) (parts : List (List Char)) (r : List Char) :
    parts.length ≤ ([','].intercalate parts ++ close :: r).length := by
  have counted := joinedCounted parts
  simp only [List.length_append, List.length_cons]
  omega

theorem sequenceRead (opens : isBlank start = false) (plain : isBlank close = false)
    (apart : close ≠ ',') (own : ∀ x r, item (write x ++ r) = some (x, r))
    (first : ∀ x r, mark? close (write x ++ r) = none) (xs : List α) (r : List Char) :
    sequence? start close item (written start close (xs.map write) ++ r) = some (xs, r) := by
  have shape : written start close (xs.map write) ++ r =
      start :: ([','].intercalate (xs.map write) ++ close :: r) := by
    simp [written]
  rw [shape, sequence?, markRead opens, Option.bind_some]
  cases xs with
  | nil => simp [markRead plain]
  | cons x xs =>
    have unclosed : mark? close ([','].intercalate ((x :: xs).map write) ++ close :: r) = none := by
      cases xs with
      | nil => simpa using first x _
      | cons y ys =>
        rw [List.map_cons, List.map_cons, List.intercalate_cons_cons]
        simpa using first x _
    have fits := itemsFit close ((x :: xs).map write) r
    rw [List.length_map] at fits
    rw [unclosed]
    exact itemsRead plain apart own (List.cons_ne_nil x xs) fits r

end Sequence

theorem quotedApart (other : '"' ≠ mark) (s : String) (r : List Char) :
    mark? mark (quoted s ++ r) = none := by
  rw [quotedShape]
  exact markApart rfl other

theorem fieldRead (field : Field) (r : List Char) :
    field? (field.written ++ r) = some (field, r) := by
  cases field with
  | text s => simp [field?, Field.written, stringRead]
  | texts ss =>
    have list : string? (Field.written (.texts ss) ++ r) = none := by
      simp [string?, Field.written, written, markApart (show isBlank '[' = false from rfl)]
    have read : sequence? '[' ']' string? (written '[' ']' (ss.map quoted) ++ r) = some (ss, r) :=
      sequenceRead (by decide) (by decide) (by decide) stringRead (quotedApart (by decide)) ss r
    simp only [field?, list]
    simp [Field.written, read]

theorem memberRead (m : String × Field) (r : List Char) :
    member? (Field.ofMember m ++ r) = some (m, r) := by
  simp [member?, Field.ofMember, stringRead, markRead (show isBlank ':' = false from rfl), fieldRead]

theorem objectRead (fields : List (String × Field)) : object? (ofFields fields) = some fields := by
  have first : ∀ (m : String × Field) r, mark? '\x7d' (Field.ofMember m ++ r) = none := by
    intro m r
    rw [Field.ofMember, List.append_assoc]
    exact quotedApart (by decide) _ _
  have read : sequence? '\x7b' '\x7d' member? (ofFields fields ++ []) = some (fields, []) :=
    sequenceRead (by decide) (by decide) (by decide) memberRead first fields []
  rw [List.append_nil] at read
  rw [object?, read]
  rfl

example : object? " \x7b \"a\\/\" : [\"\\uD83D\\ude00\" ] \x7d".toList =
    some [("a/", .texts ["😀"])] := by decide +kernel

def Shown (cs : List Char) : Prop := ∀ c ∈ cs, 0x20 ≤ c.toNat

instance (cs : List Char) : Decidable (Shown cs) :=
  List.decidableBAll (fun c : Char => 0x20 ≤ c.toNat) cs

variable {cs more : List Char} {parts : List (List Char)}

theorem shownNil : Shown [] := fun _ inside => absurd inside List.not_mem_nil

theorem shownCons (first : 0x20 ≤ c.toNat) (rest : Shown cs) : Shown (c :: cs) :=
  List.forall_mem_cons.mpr ⟨first, rest⟩

theorem shownAppend (first : Shown cs) (rest : Shown more) : Shown (cs ++ more) :=
  List.forall_mem_append.mpr ⟨first, rest⟩

theorem digitsShown : ∀ n < 0x20, Shown (hex2 n) := by decide +kernel

theorem escapeShown (c : Char) : Shown (escape c) := by
  by_cases name : c ∈ named
  · simp only [named, List.mem_cons, List.not_mem_nil, or_false] at name
    rcases name with rfl | rfl | rfl | rfl | rfl | rfl | rfl <;> decide
  rw [escapeUnnamed name]
  split
  · next control => exact shownAppend (by decide) (digitsShown c.toNat control)
  · next shown => exact shownCons (Nat.le_of_not_lt shown) shownNil

theorem quotedShown (s : String) : Shown (quoted s) := by
  have body : Shown (s.toList.flatMap escape) := by
    intro x inside
    obtain ⟨c, -, own⟩ := List.mem_flatMap.mp inside
    exact escapeShown c x own
  rw [quotedShape]
  exact shownCons (by decide) (shownAppend body (by decide))

theorem joinedShown (between : Shown more) (own : ∀ part ∈ parts, Shown part) :
    Shown (more.intercalate parts) := by
  induction parts with
  | nil => exact shownNil
  | cons part parts ih =>
    obtain ⟨first, rest⟩ := List.forall_mem_cons.mp own
    cases parts with
    | nil => simpa using first
    | cons next parts =>
      rw [List.intercalate_cons_cons]
      exact shownAppend (shownAppend first between) (ih rest)

theorem writtenShown (opens : 0x20 ≤ start.toNat) (closes : 0x20 ≤ close.toNat)
    (own : ∀ part ∈ parts, Shown part) : Shown (written start close parts) :=
  shownCons opens (shownAppend (joinedShown (by decide) own) (shownCons closes shownNil))

theorem fieldShown (field : Field) : Shown field.written := by
  cases field with
  | text s => exact quotedShown s
  | texts ss =>
    refine writtenShown (by decide) (by decide) ?_
    intro part inside
    obtain ⟨s, -, rfl⟩ := List.mem_map.mp inside
    exact quotedShown s

theorem objectShown (fields : List (String × Field)) : Shown (ofFields fields) := by
  refine writtenShown (by decide) (by decide) ?_
  intro part inside
  obtain ⟨m, -, rfl⟩ := List.mem_map.mp inside
  exact shownAppend (quotedShown m.1) (shownCons (by decide) (fieldShown m.2))

end FolderWatch.Json
