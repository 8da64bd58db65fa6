import FolderWatch.Proofs.Exclude.Lines
import FolderWatch.Proofs.Exclude.Shape
import FolderWatch.Proofs.Text.Utf8

/-! Lines without any sign of a pattern. Such a line is read as its own characters behind `**`, and
what it matches hangs on the last name of a path alone. -/
namespace FolderWatch.Exclude

open Utf8 (encode)

variable {path bytes last : List UInt8} {init : List (List UInt8)} {cs : List Char} {text : String}

def signs : List Char := ['*', '?', '[', ']', '\x7b', '\x7d', '\\', '/']

/-- A text that stands for itself as a line. -/
structure Literal (text : String) : Prop where
  filled : text ≠ ""
  plain : ∀ c ∈ text.toList, c ∉ signs
  unmarked : ∀ c ∈ text.toList.head?, c ≠ '!' ∧ c ≠ '#'
  visible : ∀ c ∈ text.toList.getLast?, Blank.isBlank c = false

theorem literalIff : Literal text ↔ text ≠ "" ∧ text.toList.all (!signs.contains ·) = true ∧
    text.toList.head?.all (fun c => c != '!' && c != '#') = true ∧
      text.toList.getLast?.all (!Blank.isBlank ·) = true := by
  simp only [List.all_eq_true, Option.all_eq_true, Bool.not_eq_true', Bool.and_eq_true,
    bne_iff_ne, List.contains_eq_mem, decide_eq_false_iff_not]
  constructor
  · exact fun literal => ⟨literal.filled, literal.plain, literal.unmarked, literal.visible⟩
  · rintro ⟨filled, plain, unmarked, visible⟩
    exact ⟨filled, plain, unmarked, visible⟩

instance (text : String) : Decidable (Literal text) := decidable_of_iff _ literalIff.symm

namespace Glob

def behindMany (p : UInt8 → Bool) (holds : List UInt8 → Bool) : List UInt8 → Bool
  | [] => holds []
  | b :: bs => holds (b :: bs) || (p b && behindMany p holds bs)

theorem manySpread (p : UInt8 → Bool) (holds : List UInt8 → Bool) (path : List UInt8) :
    many p path (spread holds path) = spread (behindMany p holds) path := by
  induction path with
  | nil => rfl
  | cons b path ih => simp only [spread, many, ih, spreadHead, behindMany]

theorem orElseSpread (one other : List UInt8 → Bool) (path : List UInt8) :
    orElse (spread one path) (spread other path) = spread (fun q => one q || other q) path := by
  induction path with
  | nil => rfl
  | cons b path ih => exact congrArg (_ :: ·) ih

theorem behindManyIff {p : UInt8 → Bool} {holds : List UInt8 → Bool} :
    behindMany p holds path = true ↔
      ∃ front rest, path = front ++ rest ∧ (∀ b ∈ front, p b = true) ∧ holds rest = true := by
  induction path with
  | nil =>
    constructor
    · exact fun holds => ⟨[], [], rfl, by simp, holds⟩
    · rintro ⟨front, rest, whole, -, holds⟩
      obtain ⟨rfl, rfl⟩ := List.append_eq_nil_iff.mp whole.symm
      exact holds
  | cons b path ih =>
    rw [behindMany, Bool.or_eq_true, Bool.and_eq_true, ih]
    constructor
    · rintro (holds | ⟨first, front, rest, rfl, all, holds⟩)
      · exact ⟨[], _, rfl, by simp, holds⟩
      · exact ⟨b :: front, rest, rfl, by simpa using ⟨first, all⟩, holds⟩
    · rintro ⟨front, rest, whole, all, holds⟩
      cases front with
      | nil =>
        cases whole
        exact .inl holds
      | cons c front =>
        cases whole
        obtain ⟨first, all⟩ := List.forall_mem_cons.mp all
        exact .inr ⟨first, front, rest, rfl, all, holds⟩

theorem bytesSpread (bytes rest path : List UInt8) :
    bytes.foldr (fun b vs => one (· == b) path vs) (spread (· == rest) path) =
      spread (· == bytes ++ rest) path := by
  induction bytes with
  | nil => rfl
  | cons b bytes ih =>
    have next : behindOne (· == b) (· == bytes ++ rest) = (· == b :: bytes ++ rest) := by
      funext q
      cases q <;> rfl
    rw [List.foldr_cons, ih, oneSpread, next]

theorem textSpread (cs : List Char) (path : List UInt8) :
    beforeAll path (cs.map .literal) (atEnd path) = spread (· == encode cs) path := by
  induction cs with
  | nil =>
    have empty : (fun q : List UInt8 => q == []) = List.isEmpty := by
      funext q
      cases q <;> rfl
    rw [atEndSpread, encode, List.flatMap_nil, empty]
    rfl
  | cons c cs ih =>
    rw [List.map_cons, beforeAll, ih, before, bytesSpread]
    rfl

theorem leadingSpread {glob : Glob} {holds : List UInt8 → Bool}
    (read : beforeAll path glob (atEnd path) = spread holds path) :
    (beforeAll path (.leading :: glob) (atEnd path)).headD false =
      (holds path || behindMany anyByte (behindOne isSlash holds) path) := by
  rw [beforeAll, read, before, oneSpread, manySpread, orElseSpread, spreadHead]

theorem deepHolds {holds : List UInt8 → Bool} (flat : ∀ q, holds q = true → Path.slash ∉ q)
    (cut : Path.split path = init ++ [last]) :
    (holds path || behindMany anyByte (behindOne isSlash holds) path) = holds last := by
  rw [Bool.eq_iff_iff, Bool.or_eq_true, behindManyIff]
  -- What holds at the end of the path or behind one of its separators has no separator of its own,
  -- which leaves the last segment only.
  constructor
  · rintro (whole | ⟨front, rest, rfl, -, behind⟩)
    · rw [Path.splitWhole (flat path whole)] at cut
      obtain ⟨-, same⟩ := List.append_inj' ((List.nil_append [path]).trans cut) rfl
      cases same
      exact whole
    · cases rest with
      | nil => cases behind
      | cons b tail =>
        rw [behindOne, Bool.and_eq_true, isSlash, beq_iff_eq] at behind
        obtain ⟨rfl, tailHolds⟩ := behind
        rw [Path.splitAppend, Path.splitWhole (flat tail tailHolds)] at cut
        obtain ⟨-, same⟩ := List.append_inj' cut rfl
        cases same
        exact tailHolds
  · intro lastHolds
    have joined := Path.joinSplit path
    rw [cut] at joined
    cases init with
    | nil =>
      cases joined
      exact .inl lastHolds
    | cons s init =>
      rw [Path.joinAppend (List.cons_ne_nil _ _) (List.cons_ne_nil _ _)] at joined
      refine .inr ⟨_, _, joined.symm, fun _ _ => rfl, ?_⟩
      simpa [behindOne, isSlash, Path.join] using lastHolds

theorem namedEnd (pointless : path.getLast? ≠ some Path.dot) : endsInWayUp path = false := by
  rw [endsInWayUp, beq_eq_false_iff_ne]
  intro wayUp
  have backwards : path.reverse.takeWhile notSlash = [Path.dot, Path.dot] := by
    rw [← List.reverse_reverse (path.reverse.takeWhile notSlash), wayUp]
    rfl
  obtain ⟨rest, whole⟩ := List.takeWhile_prefix notSlash (l := path.reverse)
  rw [backwards] at whole
  rw [← List.head?_reverse, ← whole] at pointless
  exact pointless rfl

theorem deepAccepts {glob : Glob} {holds : List UInt8 → Bool} (some : glob ≠ [])
    (read : beforeAll path glob (atEnd path) = spread holds path)
    (flat : ∀ q, holds q = true → Path.slash ∉ q) (cut : Path.split path = init ++ [last])
    (pointless : path.getLast? ≠ Option.some Path.dot) :
    accepts (.leading :: glob) path = holds last := by
  unfold accepts
  split
  · next single =>
    cases single
    exact absurd rfl some
  · rw [namedEnd pointless, Bool.and_false, if_neg Bool.false_ne_true, leadingSpread read,
      deepHolds flat cut]

theorem literalAccepts (filled : cs ≠ []) (flat : '/' ∉ cs)
    (cut : Path.split path = init ++ [last]) (pointless : path.getLast? ≠ some Path.dot) :
    accepts (.leading :: cs.map .literal) path = (last == encode cs) := by
  have named : ∀ q : List UInt8, (q == encode cs) = true → Path.slash ∉ q := by
    intro q same
    rw [beq_iff_eq.mp same, Utf8.slashInside]
    exact flat
  have accepted := deepAccepts (by simpa using filled) (textSpread cs path) named cut pointless
  exact accepted

theorem starAccepts (flat : '/' ∉ cs) (cut : Path.split path = init ++ [last])
    (pointless : path.getLast? ≠ some Path.dot) :
    accepts (.leading :: .star :: cs.map .literal) path = (encode cs).isSuffixOf last := by
  have read : beforeAll path (.star :: cs.map .literal) (atEnd path) =
      spread (behindMany notSlash (· == encode cs)) path := by
    rw [beforeAll, textSpread, before, manySpread]
  have named : ∀ q, behindMany notSlash (· == encode cs) q = true → Path.slash ∉ q := by
    intro q ends inside
    obtain ⟨front, rest, rfl, all, same⟩ := behindManyIff.mp ends
    rcases List.mem_append.mp inside with before | behind
    · simpa [notSlash] using all Path.slash before
    · rw [beq_iff_eq.mp same, Utf8.slashInside] at behind
      exact flat behind
  rw [deepAccepts (List.cons_ne_nil _ _) read named cut pointless, Bool.eq_iff_iff, behindManyIff,
    List.isSuffixOf_iff_suffix]
  constructor
  · rintro ⟨front, rest, rfl, -, same⟩
    exact ⟨front, by rw [beq_iff_eq.mp same]⟩
  · rintro ⟨front, rfl⟩
    have unseparated := Path.splitFlat path (front ++ encode cs) (by simp [cut])
    refine ⟨front, _, rfl, fun b inside => ?_, by simp⟩
    rw [notSlash, bne_iff_ne]
    rintro rfl
    exact unseparated (List.mem_append_left _ inside)

end Glob

theorem plainNotSign {c d : Char} (plain : c ∉ signs) (sign : d ∈ signs) : c ≠ d := by
  rintro rfl
  exact plain sign

namespace Literal

theorem notEmpty (literal : Literal text) : text.toList ≠ [] :=
  fun empty => literal.filled (String.toList_eq_nil_iff.mp empty)

theorem lacksSign {c : Char} (literal : Literal text) (sign : c ∈ signs) : c ∉ text.toList :=
  fun inside => literal.plain c inside sign

theorem firstPlain (literal : Literal text) :
    ∃ c cs, text.toList = c :: cs ∧ c ∉ signs ∧ c ≠ '!' ∧ c ≠ '#' := by
  obtain ⟨c, cs, spelled⟩ := List.exists_cons_of_ne_nil literal.notEmpty
  have plain := literal.plain c (spelled ▸ List.mem_cons_self)
  have unmarked := literal.unmarked c (by rw [spelled]; rfl)
  exact ⟨c, cs, spelled, plain, unmarked⟩

theorem lastPlain (literal : Literal text) :
    ∃ c cs, text.toList.reverse = c :: cs ∧ c ∉ signs ∧ Blank.isBlank c = false := by
  obtain ⟨c, cs, backwards⟩ := List.exists_cons_of_ne_nil
    (List.reverse_ne_nil_iff.mpr literal.notEmpty)
  have inside : c ∈ text.toList := List.mem_reverse.mp (backwards ▸ List.mem_cons_self)
  have last : text.toList.getLast? = some c := by rw [← List.head?_reverse, backwards]; rfl
  exact ⟨c, cs, backwards, literal.plain c inside, literal.visible c last⟩

end Literal

namespace GlobDraft

theorem plainStep {c : Char} (plain : c ∉ signs) (tokens : List Token) (previous : Option Char)
    (rest : List Char) : step ⟨tokens, [], previous, false⟩ c rest =
      .ok (⟨.literal c :: tokens, [], some c, false⟩, rest) := by
  simp only [signs, List.mem_cons, List.not_mem_nil, or_false, not_or] at plain
  obtain ⟨star, any, opening, closing, group, ended, escape, -⟩ := plain
  simp only [step, star, any, opening, group, ended, escape, if_false, decide_false,
    Bool.false_and, Bool.false_eq_true, nextBranch, push]
  split
  · next comma => rw [comma]
  · rfl

theorem plainRead (plain : ∀ c ∈ cs, c ∉ signs) {fuel : Nat} (enough : cs.length ≤ fuel)
    (tokens : List Token) (previous : Option Char) :
    readAll fuel ⟨tokens, [], previous, false⟩ cs =
      .ok (tokens.reverse ++ cs.map .literal) := by
  induction cs generalizing fuel tokens previous with
  | nil => simp [readAll]
  | cons c cs ih =>
    obtain ⟨first, others⟩ := List.forall_mem_cons.mp plain
    cases fuel with
    | zero => cases enough
    | succ fuel =>
      have rest := ih others (Nat.le_of_succ_le_succ enough) (.literal c :: tokens) (some c)
      rw [readAll, plainStep first]
      simpa using rest

end GlobDraft

namespace Glob

theorem plainText (plain : ∀ c ∈ cs, c ∉ signs) :
    ofText ('*' :: '*' :: '/' :: cs) = .ok (.leading :: cs.map .literal) := by
  have enough : cs.length ≤ cs.length + 2 := Nat.le_add_right _ _
  exact GlobDraft.plainRead plain enough [.leading] (some '/')

theorem starText (plain : ∀ c ∈ cs, c ∉ signs) :
    ofText ('*' :: '*' :: '/' :: '*' :: cs) =
      .ok (.leading :: .star :: cs.map .literal) := by
  have enough : cs.length ≤ cs.length + 2 := Nat.le_add_right _ _
  have single : GlobDraft.step ⟨[.leading], [], some '/', false⟩ '*' cs =
      .ok (⟨[.star, .leading], [], some '*', false⟩, cs) := by
    cases cs with
    | nil => rfl
    | cons c cs =>
      have other : c ≠ '*' := by
        rintro rfl
        exact plain '*' List.mem_cons_self (by decide)
      simp [GlobDraft.step, GlobDraft.push, other]
  have read := GlobDraft.plainRead plain enough [.star, .leading] (some '*')
  have whole : ofText ('*' :: '*' :: '/' :: '*' :: cs) =
      GlobDraft.readAll (cs.length + 3) ⟨[.leading], [], some '/', false⟩ ('*' :: cs) := rfl
  rw [whole, GlobDraft.readAll, single]
  exact read

end Glob

namespace Rule

theorem frontPlain {c : Char} (other : c ≠ '\\' ∧ c ≠ '!' ∧ c ≠ '/') (cs : List Char) :
    front (c :: cs) = ⟨c :: cs, false, false, false⟩ := by
  obtain ⟨escape, back, tie⟩ := other
  simp [front, escape, back, tie]

theorem frontBack {c : Char} (other : c ≠ '/') (cs : List Char) :
    front ('!' :: c :: cs) = ⟨c :: cs, true, false, false⟩ := by
  simp [front, other]

theorem backSeparated {c : Char} (parts : Parts) (cs : List Char)
    (body : parts.body.reverse = '/' :: c :: cs) (other : c ≠ '\\') :
    back parts = { parts with body := (c :: cs).reverse, onlyFolders := true } := by
  simp [back, body, other]

theorem deepLine {line : String} {parts : Parts} {glob : Glob} {c d : Char} {cs ds : List Char}
    (uncommented : line.toList.head? ≠ some '#') (backwards : line.toList.reverse = c :: cs)
    (visible : Blank.isBlank c = false) (marks : back (front line.toList) = parts)
    (loose : parts.anchored = false) (flat : '/' ∉ parts.body)
    (bodyBackwards : parts.body.reverse = d :: ds) (other : d ≠ '*')
    (read : Glob.ofText ('*' :: '*' :: '/' :: parts.body) = .ok glob) :
    ofLine line = .ok (some ⟨glob, parts.takesBack, parts.onlyFolders⟩) := by
  have uncut := cutPlain backwards visible
  have some : line.toList.isEmpty = false := by
    rw [← List.isEmpty_reverse, backwards]
    rfl
  have unstarred : parts.body ≠ ['*', '*'] := by
    intro stars
    rw [stars] at bodyBackwards
    cases bodyBackwards
    exact other rfl
  have unled : "**/".toList.isPrefixOf parts.body = false := by
    rw [Bool.eq_false_iff]
    intro front
    obtain ⟨rest, whole⟩ := List.isPrefixOf_iff_prefix.mp front
    exact flat (whole ▸ by simp)
  have deep : anyDepth parts = '*' :: '*' :: '/' :: parts.body := by
    have unseparated : parts.body.contains '/' = false := by simpa using flat
    simp only [anyDepth, loose, unseparated, unstarred, unled, decide_false, Bool.or_false,
      Bool.false_eq_true, if_false]
    rfl
  have ended : ('*' :: '*' :: '/' :: parts.body).reverse = d :: (ds ++ ['/', '*', '*']) := by
    simp [bodyBackwards]
  rw [ofLine, if_neg uncommented]
  simp only [uncut, some, marks, ofParts, deep, contentsPlain ended other, read]
  rfl

section Lines

variable (literal : Literal text)

include literal

theorem literalLine :
    ofLine text = .ok (some ⟨.leading :: text.toList.map .literal, false, false⟩) := by
  obtain ⟨c, cs, spelled, first, unmarked⟩ := literal.firstPlain
  obtain ⟨d, ds, backwards, last, visible⟩ := literal.lastPlain
  have marks : back (front text.toList) = ⟨text.toList, false, false, false⟩ := by
    rw [spelled,
      frontPlain ⟨plainNotSign first (by decide), unmarked.1, plainNotSign first (by decide)⟩,
      ← spelled]
    exact backPlain backwards (plainNotSign last (by decide))
  have uncommented : text.toList.head? ≠ some '#' := by
    rw [spelled]
    simpa using unmarked.2
  exact deepLine uncommented backwards visible marks rfl (literal.lacksSign (by decide)) backwards
    (plainNotSign last (by decide)) (Glob.plainText literal.plain)

theorem starLine :
    ofLine ("*" ++ text) =
      .ok (some ⟨.leading :: .star :: text.toList.map .literal, false, false⟩) := by
  obtain ⟨d, ds, backwards, last, visible⟩ := literal.lastPlain
  have spelled : ("*" ++ text).toList = '*' :: text.toList := by simp
  have whole : ('*' :: text.toList).reverse = d :: (ds ++ ['*']) := by simp [backwards]
  have marks : back (front ("*" ++ text).toList) = ⟨'*' :: text.toList, false, false, false⟩ := by
    rw [spelled, frontPlain (by decide)]
    exact backPlain whole (plainNotSign last (by decide))
  have flat : '/' ∉ '*' :: text.toList := by simpa using literal.lacksSign (by decide)
  exact deepLine (by simp) (spelled ▸ whole) visible marks rfl flat whole
    (plainNotSign last (by decide)) (Glob.starText literal.plain)

theorem folderLine :
    ofLine (text ++ "/") = .ok (some ⟨.leading :: text.toList.map .literal, false, true⟩) := by
  obtain ⟨c, cs, spelled, first, unmarked⟩ := literal.firstPlain
  obtain ⟨d, ds, backwards, last, -⟩ := literal.lastPlain
  have separated : (text ++ "/").toList = text.toList ++ ['/'] := by simp
  have whole : (text ++ "/").toList.reverse = '/' :: d :: ds := by simp [backwards]
  have marks : back (front (text ++ "/").toList) = ⟨text.toList, false, false, true⟩ := by
    rw [separated, spelled, List.cons_append,
      frontPlain ⟨plainNotSign first (by decide), unmarked.1, plainNotSign first (by decide)⟩,
      ← List.cons_append, ← spelled, ← separated,
      backSeparated _ ds whole (plainNotSign last (by decide)), ← backwards, List.reverse_reverse]
  have uncommented : (text ++ "/").toList.head? ≠ some '#' := by
    rw [separated, spelled]
    simpa using unmarked.2
  exact deepLine uncommented whole (by decide) marks rfl (literal.lacksSign (by decide)) backwards
    (plainNotSign last (by decide)) (Glob.plainText literal.plain)

theorem backLine :
    ofLine ("!" ++ text) = .ok (some ⟨.leading :: text.toList.map .literal, true, false⟩) := by
  obtain ⟨c, cs, spelled, first, -⟩ := literal.firstPlain
  obtain ⟨d, ds, backwards, last, visible⟩ := literal.lastPlain
  have marked : ("!" ++ text).toList = '!' :: text.toList := by simp
  have whole : ("!" ++ text).toList.reverse = d :: (ds ++ ['!']) := by simp [backwards]
  have marks : back (front ("!" ++ text).toList) = ⟨text.toList, true, false, false⟩ := by
    rw [marked, spelled, frontBack (plainNotSign first (by decide)), ← spelled]
    exact backPlain backwards (plainNotSign last (by decide))
  exact deepLine (by simp) whole visible marks rfl (literal.lacksSign (by decide)) backwards
    (plainNotSign last (by decide)) (Glob.plainText literal.plain)

end Lines

end Rule
end FolderWatch.Exclude
