import FolderWatch.Toml.Document
import Mathlib.Tactic.NormNum

/-! The parts of a line as they may be written. Each is taken whole by its reader, which leaves the
text behind it. -/
namespace FolderWatch.Toml

variable {c d : Char} {cs ds r next : List Char} {n k : Nat}

structure Gap where
  chars : List Char
  blank : chars.all fun c => c = ' ' || c = '\t'

def Gap.none : Gap := ⟨[], rfl⟩

def Gap.space : Gap := ⟨[' '], rfl⟩

/-- A text that stands between double quotes as it is. -/
structure Plain where
  chars : List Char
  plain : chars.all fun c => 0x20 ≤ c.toNat && c.toNat ≠ 0x7F && c ≠ '"' && c ≠ '\\'

/-- What stands in a comment: no control but the tab. -/
structure Remark where
  chars : List Char
  shown : chars.all fun c => c = '\t' || (0x20 ≤ c.toNat && c.toNat ≠ 0x7F)

structure BareKey where
  chars : List Char
  filled : chars ≠ []
  bare : chars.all fun c => c.isAlphanum || c = '_' || c = '-'

def Plain.text (p : Plain) : String := String.ofList p.chars

def Plain.quoted (p : Plain) : List Char := '"' :: (p.chars ++ ['"'])

def BareKey.name (k : BareKey) : String := String.ofList k.chars

inductive Break
  | feed
  | returnFeed

def Break.chars : Break → List Char
  | feed => ['\n']
  | returnFeed => ['\r', '\n']

/-- What stands behind a line, and the lines after it. -/
inductive Ends : List Char → List Char → Prop
  | last : Ends [] []
  | broken (b : Break) (r : List Char) : Ends (b.chars ++ r) r

/-- Behind a number: nothing, a blank or the end of its line. -/
def Apart (r : List Char) : Prop := ∀ c ∈ r.head?, c = ' ' ∨ c = '\t' ∨ c = '\n' ∨ c = '\r'

section Gaps

theorem gapSkipped (g : Gap) (r : List Char) : skipSpace (g.chars ++ r) = skipSpace r :=
  List.dropWhile_append_of_pos (List.all_eq_true.mp g.blank)

theorem markKept (shown : isSpace c = false) : skipSpace (c :: r) = c :: r :=
  List.dropWhile_cons_of_neg (by simp [shown])

theorem skipGap (g : Gap) (shown : isSpace c = false) : skipSpace (g.chars ++ c :: r) = c :: r := by
  rw [gapSkipped, markKept shown]

theorem endKept (ends : Ends r next) : skipSpace r = r := by
  cases ends with
  | last => rfl
  | broken b => cases b <;> exact markKept rfl

theorem fillerSkipped (g : Gap) (r : List Char) :
    skipFiller false (g.chars ++ r) = skipFiller false r := by
  obtain ⟨chars, blank⟩ := g
  induction chars with
  | nil => rfl
  | cons c cs ih =>
    obtain ⟨head, tail⟩ := Bool.and_eq_true_iff.mp blank
    obtain rfl | rfl : c = ' ' ∨ c = '\t' := by simpa using head
    all_goals simpa [skipFiller, isSpace] using ih tail

theorem skipFillerGap (g : Gap) (shown : c = '"' ∨ c = ',' ∨ c = ']') :
    skipFiller false (g.chars ++ c :: r) = c :: r := by
  rw [fillerSkipped]
  obtain rfl | rfl | rfl := shown <;> simp [skipFiller, isSpace]

theorem gapHead (g : Gap) (inside : c ∈ (g.chars ++ r).head?) :
    c = ' ' ∨ c = '\t' ∨ c ∈ r.head? := by
  cases gap : g.chars with
  | nil => exact .inr (.inr (by simpa [gap] using inside))
  | cons d ds =>
    obtain rfl : d = c := by simpa [gap] using inside
    have blank : d = ' ' ∨ d = '\t' := by
      simpa using List.all_eq_true.mp g.blank d (by simp [gap])
    exact blank.imp_right .inl

theorem gapApart (g : Gap) (ends : Ends r next) : Apart (g.chars ++ r) := by
  intro c inside
  refine (gapHead g inside).imp_right (Or.imp_right fun behind => ?_)
  cases ends with
  | last => simp at behind
  | broken b =>
    cases b with
    | feed => exact .inl (Option.some.inj behind).symm
    | returnFeed => exact .inr (Option.some.inj behind).symm

end Gaps

section LineEnds

theorem gapEnds (g : Gap) (ends : Ends r next) : lineEnd? (g.chars ++ r) = some next := by
  rw [lineEnd?, gapSkipped, endKept ends]
  cases ends with
  | last => rfl
  | broken b => cases b <;> rfl

theorem remarkEnds (m : Remark) (ends : Ends r next) :
    lineEnd? ('#' :: (m.chars ++ r)) = some next := by
  have shown : ∀ c ∈ m.chars, isShown c = true := List.all_eq_true.mp m.shown
  have stops : r.dropWhile isShown = r := by
    cases ends with
    | last => rfl
    | broken b => cases b <;> rfl
  rw [lineEnd?, markKept rfl]
  simp only [List.dropWhile_append_of_pos shown, stops]
  cases ends with
  | last => rfl
  | broken b => cases b <;> rfl

end LineEnds

section Starts

variable {chars : List Char}

theorem holdsOther {p : Char → Bool} (others : chars.any p = false) (holds : p c = true) :
    c ∉ chars := fun inside =>
  absurd holds (List.any_eq_false.mp others c inside)

theorem startOther (other : c ∉ chars) (inside : d ∈ chars) :
    c :: cs ≠ d :: ds := by
  rintro ⟨⟩
  exact other inside

end Starts

section Keys

def marks : List Char := [' ', '\t', '\n', '\r', '"', '\'', '#', '[', '\uFEFF']

theorem bareOther (bare : isBareKey c = true) : c ∉ marks :=
  holdsOther rfl bare

theorem otherShown (other : c ∉ marks) : isSpace c = false := by
  rw [marks] at other
  simp_all [isSpace]

theorem BareKey.allBare (k : BareKey) : ∀ c ∈ k.chars, isBareKey c = true :=
  List.all_eq_true.mp k.bare

theorem BareKey.starts (k : BareKey) : ∃ c cs, k.chars = c :: cs ∧ c ∉ marks := by
  obtain ⟨c, cs, chars⟩ := List.exists_cons_of_ne_nil k.filled
  exact ⟨c, cs, chars, bareOther (k.allBare c (by simp [chars]))⟩

theorem keyPartRead (k : BareKey) (apart : ∀ c ∈ r.head?, isBareKey c = false) :
    keyPart? (k.chars ++ r) = some (k.name, r) := by
  have stops : r.takeWhile isBareKey = [] ∧ r.dropWhile isBareKey = r := by
    cases r with
    | nil => simp
    | cons c r => simp [apart c rfl]
  obtain ⟨c, cs, chars, other⟩ := k.starts
  have unquoted : c ≠ '"' ∧ c ≠ '\'' := by
    constructor <;> rintro rfl <;> exact other (by decide)
  rw [BareKey.name, keyPart?]
  · simp [List.takeWhile_append_of_pos k.allBare, List.dropWhile_append_of_pos k.allBare, stops,
      k.filled]
  · simp [chars, unquoted]
  · simp [chars, unquoted]

theorem keyPartsRead (k : BareKey) (g : Gap) (room : Nat) (r : List Char) :
    keyParts? (room + 1) (k.chars ++ (g.chars ++ '=' :: r)) = some ([k.name], '=' :: r) := by
  have apart : ∀ c ∈ (g.chars ++ '=' :: r).head?, isBareKey c = false := by
    intro c inside
    obtain rfl | rfl | inside := gapHead g inside
    · decide
    · decide
    · obtain rfl : '=' = c := by simpa using inside
      decide
  have unindented : skipSpace (k.chars ++ (g.chars ++ '=' :: r)) =
      k.chars ++ (g.chars ++ '=' :: r) := by
    obtain ⟨c, cs, chars, other⟩ := k.starts
    rw [chars]
    exact markKept (otherShown other)
  simp [keyParts?, unindented, keyPartRead k apart, skipGap g (c := '=') rfl]

theorem keyRead (k : BareKey) (g : Gap) (r : List Char) :
    key? (k.chars ++ (g.chars ++ '=' :: r)) = some (([], k.name), '=' :: r) := by
  rw [key?, maxDepth, keyPartsRead k g 78 r]
  rfl

end Keys

section Strings

theorem basicRead (p : Plain) (r : List Char) :
    basic .plain (p.chars ++ '"' :: r) = some (p.chars, r) := by
  obtain ⟨chars, plain⟩ := p
  induction chars with
  | nil => simp [basic]
  | cons c cs ih =>
    obtain ⟨head, tail⟩ := Bool.and_eq_true_iff.mp plain
    obtain ⟨⟨⟨low, high⟩, quote⟩, slash⟩ :
        ((0x20 ≤ c.toNat ∧ c.toNat ≠ 0x7F) ∧ c ≠ '"') ∧ c ≠ '\\' := by simpa using head
    have shown : isShown c = true := by simp [isShown, low, high]
    have rest : basic .plain (cs ++ '"' :: r) = some (cs, r) := ih tail
    rw [List.cons_append, basic, if_pos shown, rest]
    · rfl
    · exact quote
    · exact slash

/-- Two quotes are an empty text unless a third one follows. -/
theorem stringRead (p : Plain) (apart : r.head? ≠ some '"') :
    string? (p.quoted ++ r) = some (p.text, r) := by
  have read := basicRead p r
  rw [Plain.quoted, Plain.text, List.cons_append, List.append_assoc, List.singleton_append]
  rw [string?]
  · rw [read]
    rfl
  · intro q same
    cases chars : p.chars with
    | nil => simp_all
    | cons c cs =>
      obtain ⟨rfl, -⟩ : c = '"' ∧ _ := by simpa [chars] using same
      have plain := List.all_eq_true.mp p.plain '"' (by simp [chars])
      simp at plain

end Strings

section Numerals

def numeral (n : Nat) : List Char := Nat.toDigits 10 n

theorem numeralSmall (small : n < 10) : numeral n = [Nat.digitChar n] :=
  Nat.toDigits_of_lt_base small

theorem numeralMore (large : 10 ≤ n) :
    numeral n = numeral (n / 10) ++ [Nat.digitChar (n % 10)] :=
  Nat.toDigits_of_base_le (by decide) large

theorem numeralDigits (n : Nat) : ∀ c ∈ numeral n, c.isDigit = true := fun c inside =>
  Nat.isDigit_of_mem_toDigits (b := 10) (by decide) (by decide) inside

theorem digitValue (small : n < 10) : hexDigit? (Nat.digitChar n) = some n := by
  decide +revert

theorem numeralValue (n : Nat) : valueOf 10 (numeral n) = n := by
  induction n using Nat.strongRecOn with
  | ind n ih =>
    obtain small | large := Nat.lt_or_ge n 10
    · simp [numeralSmall small, valueOf, digitValue small]
    · have front := ih (n / 10) (Nat.div_lt_self (by omega) (by decide))
      rw [valueOf] at front
      rw [numeralMore large, valueOf, List.foldl_append, front]
      simp [digitValue (Nat.mod_lt n (by decide : 10 > 0)), Nat.div_add_mod']

theorem numeralStarts (n : Nat) : ∃ c cs, numeral n = c :: cs ∧ c.isDigit = true ∧
    (c = '0' → cs = []) := by
  induction n using Nat.strongRecOn with
  | ind n ih =>
    obtain small | large := Nat.lt_or_ge n 10
    · have alone := numeralSmall small
      exact ⟨_, [], alone, numeralDigits n _ (by simp [alone]), fun _ => rfl⟩
    · obtain ⟨c, cs, front, digit, zero⟩ := ih (n / 10) (Nat.div_lt_self (by omega) (by decide))
      refine ⟨c, cs ++ [Nat.digitChar (n % 10)], by rw [numeralMore large, front]; rfl, digit,
        fun start => ?_⟩
      have none := numeralValue (n / 10)
      rw [front, zero start, start] at none
      have : n / 10 = 0 := none.symm
      omega

def signs : List Char :=
  ['_', '-', '+', '.', ':', 'e', 'E', 'i', 'n', 't', 'f', 'x', 'o', 'b', '"', '\'', '[', '\x7b']

theorem digitOther (digit : c.isDigit = true) : c ∉ signs :=
  holdsOther rfl digit

theorem digitsRead (filled : ds ≠ []) (digits : ∀ c ∈ ds, c.isDigit = true) (apart : Apart r) :
    digits? Char.isDigit (ds ++ r) = some (ds, r) := by
  induction ds with
  | nil => exact absurd rfl filled
  | cons d ds ih =>
    obtain ⟨digit, more⟩ := List.forall_mem_cons.mp digits
    have other := digitOther digit
    have noScore : d ≠ '_' := fun score => other (by simp [score, signs])
    cases ds with
    | nil =>
      cases r with
      | nil =>
        rw [List.append_nil, digits?, if_pos digit]
        exact noScore
      | cons c r =>
        have stop : c.isDigit = false ∧ c ≠ '_' := by
          obtain rfl | rfl | rfl | rfl := apart c rfl <;> decide
        rw [List.singleton_append, digits?, if_pos digit]
        · simp [stop.1]
        · exact noScore
        · exact stop.2
    | cons e ds =>
      have next := more e (by simp)
      have second : e ≠ '_' := fun score => digitOther next (by simp [score, signs])
      have rest : digits? Char.isDigit (e :: (ds ++ r)) = some (e :: ds, r) := ih (by simp) more
      rw [List.cons_append, List.cons_append, digits?, if_pos digit, if_pos next, rest]
      · rfl
      · exact noScore
      · exact second

theorem wholeRead (n : Nat) (apart : Apart r) : whole? (numeral n ++ r) = some (numeral n, r) := by
  obtain ⟨c, cs, shape, digit, zero⟩ := numeralStarts n
  by_cases start : c = '0'
  · rw [shape, zero start, start]
    rfl
  · rw [whole?]
    · exact digitsRead (by simp [shape]) (numeralDigits n) apart
    · simp [shape, start]

theorem apartOther (apart : Apart r) (inside : c ∈ r.head?) : c.isDigit = false ∧ c ∉ signs := by
  obtain rfl | rfl | rfl | rfl := apart c inside <;> decide

/-- Behind some of a number's digits stands another one, or what is behind the number. -/
theorem behindDigits (digits : ∀ c ∈ ds, c.isDigit = true) (apart : Apart r)
    (long : k ≤ (ds ++ r).length) (front : ∀ c ∈ (ds ++ r).take k, c.isDigit = true)
    (inside : c ∈ ((ds ++ r).drop k).head?) : c.isDigit = true ∨ c ∈ r.head? := by
  -- A digit is taken off the text and off the count together.
  induction ds generalizing k with
  | nil =>
    cases k with
    | zero => exact .inr inside
    | succ k =>
      cases r with
      | nil => simp at long
      | cons d r =>
        have digit := front d (by simp)
        rw [(apartOther apart rfl).1] at digit
        nomatch digit
  | cons d ds ih =>
    obtain ⟨digit, more⟩ := List.forall_mem_cons.mp digits
    cases k with
    | zero =>
      obtain rfl : d = c := by simpa using inside
      exact .inl digit
    | succ k =>
      refine ih more (by simpa using long) (fun c early => front c ?_) inside
      exact List.mem_cons_of_mem d early

/-- No date or time starts with a number, as no mark of theirs comes behind any of its digits. -/
theorem fixedBehind (digits : ∀ c ∈ ds, c.isDigit = true) (apart : Apart r)
    (fixed : fixed? k (ds ++ r) = some (n, next)) (sign : c ∈ signs) : char? c next = none := by
  rw [fixed?] at fixed
  split at fixed
  · next whole =>
    obtain ⟨length, front⟩ :
        ((ds ++ r).take k).length = k ∧ ((ds ++ r).take k).all Char.isDigit := by
      simpa using whole
    have long : k ≤ (ds ++ r).length := length ▸ List.length_take_le' k _
    obtain ⟨-, rfl⟩ := Prod.mk.inj (Option.some.inj fixed)
    have other : ∀ d ∈ ((ds ++ r).drop k).head?, d ≠ c := by
      rintro d inside rfl
      obtain digit | behind :=
        behindDigits digits apart long (List.all_eq_true.mp front) inside
      · exact digitOther digit sign
      · exact (apartOther apart behind).2 sign
    cases rest : (ds ++ r).drop k with
    | nil => rfl
    | cons d q => exact if_neg (other d (by simp [rest]))
  · contradiction

theorem numeralNoMoment (n : Nat) (apart : Apart r) : moment? (numeral n ++ r) = none := by
  have noDate : date? (numeral n ++ r) = none := by
    cases year : fixed? 4 (numeral n ++ r) with
    | none => simp [date?, year]
    | some x => simp [date?, year, fixedBehind (numeralDigits n) apart year (c := '-') (by decide)]
  have noTime : time? (numeral n ++ r) = none := by
    cases hour : fixed? 2 (numeral n ++ r) with
    | none => simp [time?, between?, hour]
    | some x =>
      have noColon := fixedBehind (numeralDigits n) apart hour (c := ':') (by decide)
      simp [time?, between?, hour, noColon]
  rw [moment?, noDate, noTime]
  rfl

theorem signedNumeral (n : Nat) (r : List Char) :
    signed (numeral n ++ r) = some (false, numeral n ++ r) := by
  obtain ⟨c, cs, shape, digit, -⟩ := numeralStarts n
  have other := digitOther digit
  rw [shape, List.cons_append, signed]
  · exact fun _ => startOther other (by decide)
  · exact fun _ => startOther other (by decide)

theorem numeralNoFloat (n : Nat) (apart : Apart r) : float? (numeral n ++ r) = none := by
  obtain ⟨c, cs, shape, digit, -⟩ := numeralStarts n
  have other := digitOther digit
  have noWord : special? (numeral n ++ r) = none := by
    rw [shape, List.cons_append, special?]
    · exact fun _ => startOther other (by decide)
    · exact fun _ => startOther other (by decide)
  have noPart : fractional? r = none := by
    cases r with
    | nil => rfl
    | cons d r => obtain rfl | rfl | rfl | rfl := apart d rfl <;> rfl
  simp [float?, signedNumeral, noWord, wholeRead n apart, noPart]

theorem integerLimitAs : integerLimit = 2 ^ 63 := by
  norm_num [integerLimit, UInt64.size]

/-- A zero in front of more is the start of a number in another base. -/
theorem numeralNoBase (n : Nat) (apart : Apart r) (sign : c ∈ signs) :
    numeral n ++ r ≠ '0' :: c :: next := by
  obtain ⟨d, ds, shape, -, zero⟩ := numeralStarts n
  rw [shape]
  intro same
  obtain ⟨rfl, behind⟩ := List.cons.inj same
  obtain rfl := zero rfl
  have behind : r = c :: next := behind
  exact (apartOther apart (by simp [behind])).2 sign

theorem integerRead (small : n < 2 ^ 63) (apart : Apart r) :
    integer? (numeral n ++ r) = some (.integer n, r) := by
  rw [integer?]
  · have fits : -((2 ^ 63 : Nat) : Int) ≤ n ∧ (n : Int) < (2 ^ 63 : Nat) := by omega
    simp only [signedNumeral, wholeRead n apart, numeralValue, integerLimitAs, bind, Option.bind]
    simp only [Bool.false_eq_true, if_false, fits, decide_true, Bool.and_true, if_true]
  · exact fun _ => numeralNoBase n apart (by decide)
  · exact fun _ => numeralNoBase n apart (by decide)
  · exact fun _ => numeralNoBase n apart (by decide)

theorem numeralRead (small : n < 2 ^ 63) (apart : Apart r) :
    scalarValue? (numeral n ++ r) = some (.integer n, r) := by
  obtain ⟨c, cs, shape, digit, -⟩ := numeralStarts n
  have other := digitOther digit
  have noString : string? (numeral n ++ r) = none := by
    rw [shape, List.cons_append, string?]
    · exact fun _ => startOther other (by decide)
    · exact fun _ => startOther other (by decide)
    · exact fun _ => startOther other (by decide)
    · exact fun _ => startOther other (by decide)
  rw [scalarValue?]
  · simp [noString, numeralNoMoment n apart, numeralNoFloat n apart, integerRead small apart]
  · rw [shape]
    exact fun _ => startOther other (by decide)
  · rw [shape]
    exact fun _ => startOther other (by decide)

end Numerals

end FolderWatch.Toml
