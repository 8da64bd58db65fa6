import FolderWatch.Proofs.Exclude.Literal
import FolderWatch.Proofs.Exclude.Seen

/-! What plain lines say of entries, name by name. A line drops the entries that have its text as
one of their names, with a star in front as the end of one, and with a separator behind as the name
of a folder; a last line that takes a name back brings every entry of that name back. -/
namespace FolderWatch.Exclude

open FolderWatch.Path (Above join isFiller)
open Utf8 (ofString encode)

/-- A name on the way to an entry, or its own, that is not mistaken for a step on the way. -/
structure Part (name : String) : Prop where
  filled : name ≠ ""
  flat : '/' ∉ name.toList
  pointless : name.toList.getLast? ≠ some '.'

instance (name : String) : Decidable (Part name) :=
  decidable_of_iff (name ≠ "" ∧ '/' ∉ name.toList ∧ name.toList.getLast? ≠ some '.')
    ⟨fun ⟨filled, flat, pointless⟩ => ⟨filled, flat, pointless⟩,
      fun part => ⟨part.filled, part.flat, part.pointless⟩⟩

def spell (parts : List String) : String := "/".intercalate parts

variable {parts : List String} {part text name : String} {init ss : List (List UInt8)}
  {s path : List UInt8} {rule : Rule} {rules : List Rule} {lines : List String}
  {folders : List Folder} {folder : Folder} {filter : Filter} {isFolder : Bool}
  {glob : Glob} {holds : List UInt8 → Bool}

theorem spelledBytes (parts : List String) : ofString (spell parts) = join (parts.map ofString) := by
  induction parts with
  | nil => rfl
  | cons part parts ih =>
    cases parts with
    | nil => simp [spell, join]
    | cons next parts =>
      have separator : ofString "/" = [Path.slash] := by decide
      rw [spell, String.intercalate_cons_cons, Utf8.encodeAppend, Utf8.encodeAppend, separator,
        ← spell, ih, List.append_assoc]
      rfl

structure Segment (s : List UInt8) : Prop where
  filled : s ≠ []
  flat : Path.slash ∉ s
  pointless : s.getLast? ≠ some Path.dot

theorem Part.segment (part : Part name) : Segment (ofString name) where
  filled := Utf8.encodeFilled part.filled
  flat inside := part.flat (Utf8.slashInside.mp inside)
  pointless ends := part.pointless (Utf8.dotAtEnd ends)

theorem Segment.named (segment : Segment s) : isFiller s = false := by
  have filled := segment.filled
  have pointless : s ≠ [Path.dot] := by
    rintro rfl
    exact segment.pointless rfl
  simp [isFiller, filled, pointless]

theorem segmentsOf (all : ∀ part ∈ parts, Part part) : ∀ s ∈ parts.map ofString, Segment s := by
  intro s inside
  obtain ⟨part, among, rfl⟩ := List.mem_map.mp inside
  exact (all part among).segment

structure ByLastName (glob : Glob) (holds : List UInt8 → Bool) : Prop where
  blank : holds [] = false
  told : ∀ path init last, Path.split path = init ++ [last] → path.getLast? ≠ some Path.dot →
    glob.accepts path = holds last

theorem Literal.byLastName (literal : Literal text) :
    ByLastName (.leading :: text.toList.map .literal) (· == encode text.toList) where
  blank := beq_eq_false_iff_ne.mpr (Utf8.encodeFilled literal.filled).symm
  told _ _ _ cut pointless :=
    Glob.literalAccepts literal.notEmpty (literal.lacksSign (by decide)) cut pointless

theorem Literal.starByLastName (literal : Literal text) :
    ByLastName (.leading :: .star :: text.toList.map .literal) (encode text.toList).isSuffixOf where
  blank := by
    rw [Bool.eq_false_iff, ne_eq, List.isSuffixOf_iff_suffix, List.suffix_nil]
    exact Utf8.encodeFilled literal.filled
  told _ _ _ cut pointless := Glob.starAccepts (literal.lacksSign (by decide)) cut pointless

theorem textTold : (ofString part == encode text.toList) = true ↔ part = text :=
  beq_iff_eq.trans Utf8.textSame

theorem endTold : (encode text.toList).isSuffixOf (ofString part) = true ↔
    text.toList <:+ part.toList :=
  List.isSuffixOf_iff_suffix.trans Utf8.encodeSuffix

section Segments

variable (segments : ∀ s ∈ ss, Segment s)

include segments

theorem segmentsTrimmed : Path.Trimmed ss where
  flat s inside := (segments s inside).flat
  first s head := (segments s (List.mem_of_head? head)).named
  last s ends := (segments s (List.mem_of_getLast? ends)).named

theorem segmentsPlain (some : ss ≠ []) : Path.Plain (join ss) := by
  intro s inside
  rw [Path.splitJoin some (segmentsTrimmed segments).flat] at inside
  exact (segments s inside).named

variable (tells : ByLastName glob holds)

include tells

theorem acceptsLast (whole : ss = init ++ [s]) : glob.accepts (join ss) = holds s := by
  have segment := segments s (by simp [whole])
  apply tells.told (join ss) init s
  · rw [Path.splitJoin (by simp [whole]) (segmentsTrimmed segments).flat, whole]
  · rw [whole, Path.joinLast segment.filled]
    exact segment.pointless

omit segments in
theorem blankTop : glob.accepts (join []) = false := by
  rw [← tells.blank]
  exact tells.told [] [] [] rfl (by simp)

end Segments

theorem foldersByName {before : List (List UInt8)} (segments : ∀ s ∈ before, Segment s)
    (tells : ByLastName glob holds) (last : List UInt8) :
    (∃ front, Above front (before ++ [last]) ∧ glob.accepts (join front) = true) ↔
      ∃ s ∈ before, holds s = true := by
  induction before using List.reverseRecOn generalizing last with
  | nil =>
    have top : ∀ front, Above front ([] ++ [last]) ↔ front = [] := by
      intro front
      exact Path.aboveSnoc.trans (or_iff_left Path.aboveNothing)
    simp only [top, exists_eq_left, blankTop tells, Bool.false_eq_true, List.not_mem_nil, false_and,
      exists_false]
  | append_singleton before s ih =>
    have own := acceptsLast segments tells rfl
    have others := ih (fun t inside => segments t (List.mem_append_left _ inside)) s
    have whole := Path.trimWhole (segmentsTrimmed segments).last
    have next : ∀ front, Above front (before ++ [s] ++ [last]) ↔
        front = before ++ [s] ∨ Above front (before ++ [s]) := by
      intro front
      rw [Path.aboveSnoc, whole]
    simp only [next, or_and_right, exists_or, exists_eq_left, own, others, List.mem_append,
      List.mem_singleton]
    exact or_comm

theorem dropsByName (segments : ∀ s ∈ ss, Segment s) (tells : ByLastName rule.glob holds)
    (drop : rule.takesBack = false) :
    Rule.drops [rule] (join ss) isFolder = true ↔ (∃ s ∈ ss.dropLast, holds s = true) ∨
      ∃ s ∈ ss.getLast?, holds s = true ∧ (rule.onlyFolders = true → isFolder = true) := by
  rw [Rule.dropsBelow (by simpa using drop) (segmentsTrimmed segments), or_comm]
  simp only [List.mem_singleton, exists_eq_left, Rule.speaksOf, Bool.and_eq_true, Bool.or_eq_true,
    Bool.true_or, true_and]
  rcases List.eq_nil_or_concat ss with rfl | ⟨before, last, rfl⟩
  · simp [blankTop tells]
  · rw [List.concat_eq_append] at segments ⊢
    have folders : ∀ s ∈ before, Segment s :=
      fun s inside => segments s (List.mem_append_left _ inside)
    rw [foldersByName folders tells, acceptsLast segments tells rfl, List.dropLast_concat]
    simp only [List.getLast?_concat, Option.mem_def, Option.some.injEq, exists_eq_left']
    cases rule.onlyFolders <;> simp [and_comm]

namespace Filter

theorem spelledBelow (absolute : Path.isAbsolute (ofString folder.text) = true)
    (some : parts ≠ []) (all : ∀ part ∈ parts, Part part) :
    Path.below? (ofString folder.text) (ofString (folder.entry (spell parts))) =
      if folder.text.toList.getLast? = Option.some '\\' then none
      else Option.some (ofString (spell parts)) := by
  have filled : folder.text ≠ "" := by
    intro empty
    rw [empty] at absolute
    cases absolute
  apply entryBelow filled
  rw [spelledBytes]
  exact segmentsPlain (segmentsOf all) (by simpa using some)

theorem skipsEntry (read : ofLines folders lines = .ok filter) (inside : folder ∈ folders)
    (listed : Listed lines rules) (absolute : Path.isAbsolute (ofString folder.text) = true)
    (unclosed : folder.text.toList.getLast? ≠ some '\\') (some : parts ≠ [])
    (all : ∀ part ∈ parts, Part part) (isFolder : String → Bool) :
    filter.skips isFolder folder (folder.entry (spell parts)) =
      .ok (Rule.drops rules (join (parts.map ofString))
        (lines.any asksForFolders && isFolder (folder.entry (spell parts)))) := by
  have segments := segmentsOf all
  have plain := segmentsPlain segments (by simpa using some)
  have seen : candidate (ofString folder.text) (join (parts.map ofString)) =
      join (parts.map ofString) :=
    candidateAbsolute absolute fun s head => plain s (List.mem_of_head? head)
  have below := spelledBelow absolute some all
  rw [if_neg unclosed, spelledBytes] at below
  rw [skipsBelow read inside listed below (Path.plainFilled plain) (candidateUnrooted plain), seen]

theorem ofRuleLine {line : String} (read : Rule.ofLine line = .ok (some rule))
    (inside : folder ∈ folders) :
    ofLines folders [line] = .ok ⟨folders, [rule], [line].any asksForFolders⟩ := by
  have known : folders.isEmpty = false := by simp [List.ne_nil_of_mem inside]
  simp [ofLines, readLines, read, known, Except.map]

theorem upperOrLast (applies : String → Prop) :
    ((∃ part ∈ parts.dropLast, applies part) ∨ ∃ part ∈ parts.getLast?, applies part) ↔
      ∃ part ∈ parts, applies part := by
  rcases List.eq_nil_or_concat parts with rfl | ⟨before, last, rfl⟩
  · simp
  · simp [or_and_right, exists_or]

section Entry

variable (inside : folder ∈ folders) (absolute : Path.isAbsolute (ofString folder.text) = true)
  (unclosed : folder.text.toList.getLast? ≠ some '\\') (some : parts ≠ [])
  (all : ∀ part ∈ parts, Part part)

include inside absolute unclosed some all

theorem lineDropsByName {line : String} {applies : String → Prop}
    (read : Rule.ofLine line = .ok (Option.some rule)) (drop : rule.takesBack = false)
    (tells : ByLastName rule.glob holds)
    (meaning : ∀ part, holds (ofString part) = true ↔ applies part) (isFolder : String → Bool) :
    ∃ filter dropped, ofLines folders [line] = .ok filter ∧
      filter.skips isFolder folder (folder.entry (spell parts)) = .ok dropped ∧
      (dropped = true ↔
        (∃ part ∈ parts.dropLast, applies part) ∨ ∃ part ∈ parts.getLast?, applies part ∧
          (rule.onlyFolders = true → isFolder (folder.entry (spell parts)) = true)) := by
  have built := ofRuleLine read inside
  have listed : Listed [line] [rule] := .rule read .nil
  refine ⟨_, _, built, skipsEntry built inside listed absolute unclosed some all isFolder, ?_⟩
  rw [dropsByName (segmentsOf all) tells drop]
  have asked : rule.onlyFolders = true → [line].any asksForFolders = true := by
    intro only
    simp [Rule.lineAsks read only]
  have looked : (rule.onlyFolders = true → ([line].any asksForFolders &&
      isFolder (folder.entry (spell parts))) = true) ↔
        (rule.onlyFolders = true → isFolder (folder.entry (spell parts)) = true) := by
    apply imp_congr_right
    intro only
    rw [asked only, Bool.true_and]
  rw [← List.map_dropLast, List.getLast?_map]
  apply or_congr
  · simp only [List.mem_map, exists_exists_and_eq_and, meaning]
  · cases parts.getLast? with
    | none => simp
    | some part =>
      simp only [Option.map_some, Option.mem_def, Option.some.injEq, exists_eq_left', meaning, looked]

theorem lineDropsAnyName {line : String} {applies : String → Prop}
    (read : Rule.ofLine line = .ok (Option.some rule)) (drop : rule.takesBack = false)
    (any : rule.onlyFolders = false) (tells : ByLastName rule.glob holds)
    (meaning : ∀ part, holds (ofString part) = true ↔ applies part) (isFolder : String → Bool) :
    ∃ filter dropped, ofLines folders [line] = .ok filter ∧
      filter.skips isFolder folder (folder.entry (spell parts)) = .ok dropped ∧
      (dropped = true ↔ ∃ part ∈ parts, applies part) := by
  obtain ⟨filter, dropped, built, answered, verdict⟩ :=
    lineDropsByName inside absolute unclosed some all read drop tells meaning isFolder
  simp only [any, Bool.false_eq_true, false_imp_iff, and_true, upperOrLast] at verdict
  exact ⟨filter, dropped, built, answered, verdict⟩

/-- A plain text as a line drops the entries that have it as a name, with a star in front those
that have it as the end of a name, with a separator behind those that have it as a folder's name. -/
theorem plainLinesDropByName (literal : Literal text) (isFolder : String → Bool) :
    (∃ filter dropped, ofLines folders [text] = .ok filter ∧
      filter.skips isFolder folder (folder.entry (spell parts)) = .ok dropped ∧
      (dropped = true ↔ text ∈ parts)) ∧
    (∃ filter dropped, ofLines folders ["*" ++ text] = .ok filter ∧
      filter.skips isFolder folder (folder.entry (spell parts)) = .ok dropped ∧
      (dropped = true ↔ ∃ part ∈ parts, text.toList <:+ part.toList)) ∧
    ∃ filter dropped, ofLines folders [text ++ "/"] = .ok filter ∧
      filter.skips isFolder folder (folder.entry (spell parts)) = .ok dropped ∧
      (dropped = true ↔ text ∈ parts.dropLast ∨ parts.getLast? = Option.some text ∧
        isFolder (folder.entry (spell parts)) = true) := by
  refine ⟨?_, ?_, ?_⟩
  · obtain ⟨filter, dropped, built, answered, verdict⟩ :=
      lineDropsAnyName inside absolute unclosed some all (Rule.literalLine literal) rfl rfl
        literal.byLastName (fun _ => textTold) isFolder
    exact ⟨filter, dropped, built, answered, by simpa using verdict⟩
  · exact lineDropsAnyName inside absolute unclosed some all (Rule.starLine literal) rfl rfl
      literal.starByLastName (fun _ => endTold) isFolder
  · obtain ⟨filter, dropped, built, answered, verdict⟩ :=
      lineDropsByName inside absolute unclosed some all (Rule.folderLine literal) rfl
        literal.byLastName (fun _ => textTold) isFolder
    refine ⟨filter, dropped, built, answered, verdict.trans (or_congr (by simp) ?_)⟩
    constructor
    · rintro ⟨part, last, rfl, found⟩
      exact ⟨last, found rfl⟩
    · rintro ⟨last, found⟩
      exact ⟨text, last, rfl, fun _ => found⟩

end Entry

theorem rebuildKeptByName :
    (∃ filter, ofLines [.ofText "/srv/"] ["build"] = .ok filter ∧
      filter.skips (fun _ => true) (.ofText "/srv/") "/srv/src/rebuild" = .ok false) ∧
    (∃ filter, ofLines [.ofText "/srv/"] ["*build"] = .ok filter ∧
      filter.skips (fun _ => true) (.ofText "/srv/") "/srv/src/rebuild" = .ok true) ∧
    ∃ filter, ofLines [.ofText "/srv/"] ["build/"] = .ok filter ∧
      filter.skips (fun _ => true) (.ofText "/srv/") "/srv/src/rebuild" = .ok false := by
  have literal : Literal "build" := by decide
  have all : ∀ part ∈ ["src", "rebuild"], Part part := by decide +kernel
  have inside : Folder.ofText "/srv/" ∈ [Folder.ofText "/srv/"] := List.mem_cons_self
  have path : (Folder.ofText "/srv/").entry (spell ["src", "rebuild"]) = "/srv/src/rebuild" := by
    decide +kernel
  obtain ⟨⟨one, first, readOne, answerOne, whole⟩, ⟨two, second, readTwo, answerTwo, ending⟩,
      three, third, readThree, answerThree, named⟩ :=
    plainLinesDropByName inside (by decide) (by decide) (by simp) all literal fun _ => true
  rw [path] at answerOne answerTwo answerThree
  have spared : first = false := by
    rw [Bool.eq_false_iff, ne_eq, whole]
    decide
  have dropped : second = true := ending.mpr ⟨"rebuild", by simp, by decide⟩
  have again : third = false := by
    rw [Bool.eq_false_iff, ne_eq, named]
    decide
  exact ⟨⟨one, readOne, spared ▸ answerOne⟩, ⟨two, readTwo, dropped ▸ answerTwo⟩,
    three, readThree, again ▸ answerThree⟩

section Back

variable (literal : Literal text) (read : ofLines folders (lines ++ ["!" ++ text]) = .ok filter)
  (absolute : Path.isAbsolute (ofString folder.text) = true) (all : ∀ part ∈ parts, Part part)
  (last : parts.getLast? = some text) (isFolder : String → Bool)

include literal read absolute all last

theorem lastLineKeeps {path : String}
    (below : ∀ p ∈ Path.below? (ofString folder.text) (ofString path), p = ofString (spell parts)) :
    filter.skips isFolder folder path = .ok false := by
  obtain ⟨before, rfl⟩ := List.getLast?_eq_some_iff.mp last
  have segments := segmentsOf all
  have plain := segmentsPlain segments (by simp)
  have kept : filter.skips isFolder folder path ≠ .ok true := by
    rw [ne_eq, skipsIff read]
    rintro ⟨-, rules, listed, seen, found, -, -, dropped⟩
    rw [below seen found, spelledBytes,
      candidateAbsolute absolute fun s head => plain s (List.mem_of_head? head)] at dropped
    -- The rule of the last line stands behind the others and speaks of the entry itself, so that the
    -- folders above are not asked about.
    obtain ⟨others, extra, -, own, rfl⟩ := listed.append
    cases own.unique (.rule (Rule.backLine literal) .nil)
    have speaks : ∀ b, Rule.speaksOf ⟨.leading :: text.toList.map .literal, true, false⟩
        (join ((before ++ [text]).map ofString)) b = true := by
      intro b
      have accepted := acceptsLast segments literal.byLastName List.map_append
      rw [Rule.speaksOf, accepted]
      simp [ofString]
    rw [Rule.lastWord others (speaks _)] at dropped
    cases dropped
  obtain ⟨dropped, answered⟩ := skipsAnswers filter isFolder fun seen found _ => by
    rw [below seen found, spelledBytes]
    exact candidateUnrooted plain
  cases dropped with
  | false => exact answered
  | true => exact absurd answered kept

/-- Whatever a list says of an entry or of the folders above it, a last line that takes its name
back has the last word, however the path of the entry is spelled. -/
theorem nameTakenBack :
    filter.skips isFolder folder (folder.entry (spell parts)) = .ok false ∧
      ∀ path, Path.below? (ofString folder.text) (ofString path) = some (ofString (spell parts)) →
        filter.skips isFolder folder path = .ok false := by
  constructor
  · apply lastLineKeeps literal read absolute all last
    intro p found
    have some : parts ≠ [] := by
      rintro rfl
      cases last
    rw [spelledBelow absolute some all, Option.mem_def] at found
    split at found
    · cases found
    · exact (Option.some.inj found).symm
  · intro path below
    apply lastLineKeeps literal read absolute all last
    intro p found
    rw [below] at found
    exact (Option.some.inj found).symm

end Back

theorem keptInDroppedFolder : ∃ filter,
    ofLines [.ofText "/srv"] (["logs/", "*.log"] ++ ["!" ++ "keep.log"]) = .ok filter ∧
      filter.skips (fun _ => true) (.ofText "/srv") "/srv/logs/keep.log" = .ok false ∧
      filter.skips (fun _ => true) (.ofText "/srv") "/srv//logs/keep.log" = .ok false := by
  have literal : Literal "keep.log" := by decide
  have all : ∀ part ∈ ["logs", "keep.log"], Part part := by decide +kernel
  have read : ofLines [.ofText "/srv"] (["logs/", "*.log"] ++ ["!" ++ "keep.log"]) =
      .ok ⟨[.ofText "/srv"], [⟨.leading :: "logs".toList.map .literal, false, true⟩,
        ⟨.leading :: .star :: ".log".toList.map .literal, false, false⟩,
        ⟨.leading :: "keep.log".toList.map .literal, true, false⟩], true⟩ := rfl
  have path : (Folder.ofText "/srv").entry (spell ["logs", "keep.log"]) = "/srv/logs/keep.log" := by
    decide +kernel
  have absolute : Path.isAbsolute (ofString (Folder.ofText "/srv").text) = true := by decide
  obtain ⟨spelled, doubled⟩ := nameTakenBack literal read absolute all rfl fun _ => true
  exact ⟨_, read, path ▸ spelled, doubled _ (by decide +kernel)⟩

end Filter

end FolderWatch.Exclude
