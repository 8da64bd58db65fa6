import FolderWatch.Exclude.Filter
import FolderWatch.Proofs.Path

/-! A line can single out one path among all that are no longer: it asks for a separator wherever
the path has one, and for any other byte everywhere else. -/
namespace FolderWatch.Exclude

variable {p q path : List UInt8} {shape : List Bool}

namespace Glob

def spread (holds : List UInt8 → Bool) : List UInt8 → Verdicts
  | [] => [holds []]
  | b :: bs => holds (b :: bs) :: spread holds bs

def behindOne (p : UInt8 → Bool) (holds : List UInt8 → Bool) : List UInt8 → Bool
  | [] => false
  | b :: bs => p b && holds bs

theorem spreadHead (holds : List UInt8 → Bool) (path : List UInt8) :
    (spread holds path).headD false = holds path := by
  cases path <;> rfl

theorem oneSpread (p : UInt8 → Bool) (holds : List UInt8 → Bool) (path : List UInt8) :
    one p path (spread holds path) = spread (behindOne p holds) path := by
  induction path with
  | nil => rfl
  | cons b path ih => simp only [spread, one, spreadHead, ih, behindOne]

theorem atEndSpread (path : List UInt8) : atEnd path = spread List.isEmpty path := by
  induction path with
  | nil => rfl
  | cons b path ih => exact congrArg (false :: ·) ih

def slashes (path : List UInt8) : List Bool := path.map isSlash

def ofShape (shape : List Bool) : Glob :=
  shape.map fun separator => if separator then .literal '/' else .any

theorem shapeSpread (path : List UInt8) (shape : List Bool) :
    beforeAll path (ofShape shape) (atEnd path) = spread (slashes · == shape) path := by
  induction shape with
  | nil =>
    have empty : (fun q : List UInt8 => slashes q == []) = List.isEmpty := by
      funext q
      cases q <;> rfl
    rw [empty, ← atEndSpread]
    simp only [ofShape, List.map_nil, beforeAll]
  | cons separator shape ih =>
    have encoded : String.utf8EncodeChar '/' = [Path.slash] := by decide
    have next : (slashes · == separator :: shape) =
        behindOne (isSlash · == separator) (slashes · == shape) := by
      funext q
      cases q <;> rfl
    rw [next, ← oneSpread, ← ih]
    cases separator with
    | true =>
      simp only [ofShape, List.map_cons, if_true, beforeAll, before, encoded, List.foldr_cons,
        List.foldr_nil]
      congr 1
      funext b
      simp [isSlash]
    | false =>
      simp only [ofShape, List.map_cons, Bool.false_eq_true, if_false, beforeAll, before]
      congr 1
      funext b
      simp [isSlash, notSlash, bne]

theorem shapeAccepts (path : List UInt8) (shape : List Bool) :
    accepts (ofShape shape) path = (slashes path == shape) := by
  have anywhere : wantsName (ofShape shape) = false := by
    unfold wantsName
    cases last : (ofShape shape).getLast? with
    | none => rfl
    | some t =>
      have inside := List.mem_of_getLast? last
      obtain ⟨separator, -, rfl⟩ := List.mem_map.mp inside
      cases separator <;> rfl
  have matched : (beforeAll path (ofShape shape) (atEnd path)).headD false =
      (slashes path == shape) := by
    rw [shapeSpread, spreadHead]
  unfold accepts
  split
  · next single =>
    cases shape with
    | nil => cases single
    | cons separator shape => cases separator <;> cases single
  · rw [anywhere, Bool.false_and, if_neg Bool.false_ne_true, matched]

end Glob

def shapeText (shape : List Bool) : List Char :=
  shape.map fun separator => if separator then '/' else '?'

theorem shapeRead (shape : List Bool) : ∀ (tokens : List Token) (previous : Option Char),
    GlobDraft.readAll (shapeText shape).length ⟨tokens, [], previous, false⟩ (shapeText shape) =
      .ok (tokens.reverse ++ Glob.ofShape shape) := by
  induction shape with
  | nil =>
    intro tokens previous
    simp [shapeText, Glob.ofShape, GlobDraft.readAll]
  | cons separator shape ih =>
    intro tokens previous
    cases separator with
    | true =>
      have rest := ih (.literal '/' :: tokens) (some '/')
      rw [List.reverse_cons, List.append_assoc] at rest
      exact rest
    | false =>
      have rest := ih (.any :: tokens) (some '?')
      rw [List.reverse_cons, List.append_assoc] at rest
      exact rest

namespace Rule

/-- The line that has a rule of one shape; the separator in front ties it to the folder. -/
def lineOfShape (shape : List Bool) : String := String.ofList ('/' :: shapeText shape)

theorem cutPlain {cs r : List Char} {c : Char} (backwards : cs.reverse = c :: r)
    (visible : Blank.isBlank c = false) : cut cs = cs := by
  have kept : Blank.trimEnd cs = cs := by
    rw [Blank.trimEnd, backwards, List.dropWhile_cons_of_neg (by rw [visible]; decide),
      ← backwards, List.reverse_reverse]
  unfold cut
  split
  · rfl
  · exact kept

theorem backPlain {parts : Parts} {r : List Char} {c : Char}
    (backwards : parts.body.reverse = c :: r) (other : c ≠ '/') : back parts = parts := by
  unfold back
  split
  · next separated =>
    rw [backwards] at separated
    exact absurd (List.cons.inj separated).1 other
  · next separated =>
    rw [backwards] at separated
    exact absurd (List.cons.inj separated).1 other
  · rfl

theorem contentsPlain {cs r : List Char} {c : Char} (backwards : cs.reverse = c :: r)
    (other : c ≠ '*') : contentsOnly cs = cs := by
  have apart : ('*' == c) = false := beq_eq_false_iff_ne.mpr other.symm
  have unended : "/**".toList.isSuffixOf cs = false := by
    rw [List.isSuffixOf, backwards]
    simp [List.isPrefixOf, apart]
  rw [contentsOnly, unended, if_neg Bool.false_ne_true]

theorem shapeLine (init : List Bool) :
    ofLine (lineOfShape (init ++ [false])) =
      .ok (some ⟨Glob.ofShape (init ++ [false]), false, false⟩) := by
  have backwards : (shapeText (init ++ [false])).reverse = '?' :: (shapeText init).reverse := by
    simp [shapeText]
  have whole : ('/' :: shapeText (init ++ [false])).reverse =
      '?' :: ((shapeText init).reverse ++ ['/']) := by
    rw [List.reverse_cons, backwards, List.cons_append]
  have uncut := cutPlain whole (by decide)
  have parts : back (front ('/' :: shapeText (init ++ [false]))) =
      ⟨shapeText (init ++ [false]), false, true, false⟩ := backPlain backwards (by decide)
  have asItStands := contentsPlain backwards (by decide)
  have read : Glob.ofText (shapeText (init ++ [false])) = .ok (Glob.ofShape (init ++ [false])) :=
    shapeRead _ [] none
  have chars : (lineOfShape (init ++ [false])).toList = '/' :: shapeText (init ++ [false]) :=
    String.toList_ofList
  simp only [ofLine, chars, uncut, parts, ofParts, anyDepth, Bool.true_or, if_true, asItStands,
    read]
  rfl

theorem aboveShorter (fuel : Nat) (path : List UInt8) :
    ∀ p ∈ above fuel path, p.length ≤ path.length := by
  induction fuel generalizing path with
  | zero => exact fun p inside => nomatch inside
  | succ fuel ih =>
    intro p inside
    simp only [above] at inside
    split at inside
    · next parent found =>
      have short := Path.parentShorter found
      rcases List.mem_cons.mp inside with rfl | further
      · exact short
      · exact Nat.le_trans (ih parent p further) short
    · cases inside

theorem shapeDrops (p : List UInt8) (isFolder : Bool) :
    drops [⟨Glob.ofShape (Glob.slashes p), false, false⟩] p isFolder = true := by
  simp [drops, verdict?, speaksOf, Glob.shapeAccepts]

theorem shapeSpares (shorter : q.length < p.length) (isFolder : Bool) :
    drops [⟨Glob.ofShape (Glob.slashes p), false, false⟩] q isFolder = false := by
  have silent : ∀ (path : List UInt8) (isFolder : Bool), path.length ≤ q.length →
      verdict? [⟨Glob.ofShape (Glob.slashes p), false, false⟩] path isFolder = none := by
    intro path isFolder short
    have other : Glob.slashes path ≠ Glob.slashes p := by
      intro same
      have lengths := congrArg List.length same
      simp only [Glob.slashes, List.length_map] at lengths
      omega
    simp [verdict?, speaksOf, Glob.shapeAccepts, other]
  have none : (above (q.length + 1) q).findSome?
      (verdict? [⟨Glob.ofShape (Glob.slashes p), false, false⟩] · true) = none :=
    List.findSome?_eq_none_iff.mpr fun path inside =>
      silent path true (aboveShorter _ q path inside)
  rw [drops, silent q isFolder (Nat.le_refl _), none]
  rfl

end Rule
end FolderWatch.Exclude
