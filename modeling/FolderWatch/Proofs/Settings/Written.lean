import FolderWatch.Proofs.Number.Value
import FolderWatch.Proofs.Toml.Written
import FolderWatch.Settings.Document

/-! Files that give some of the settings, each on a line of its own. Their settings are the default
ones but for what they give. -/
namespace FolderWatch.Settings

open Toml (Break BareKey Gap Line Pair Plain Row Written)

variable {β : Type}

/-- What a line can give for a setting; the numbers are those that a setting holds exactly. -/
inductive Entry
  | latency (n : Nat) (small : n ≤ 2 ^ 53)
  | records (n : Nat) (small : n < 2 ^ 63)
  | recursive (b : Bool)
  | interests (row : Row Interest)
  | exclude (row : Row Plain)

def Key.bare (k : Key) : BareKey :=
  ⟨k.name.toList, by cases k <;> decide, by cases k <;> decide⟩

def plainInterest (i : Interest) : Plain := ⟨i.name.toList, by cases i <;> decide⟩

namespace Entry

def key : Entry → Key
  | latency .. => .latency
  | records .. => .records
  | recursive _ => .recursive
  | interests _ => .interests
  | exclude _ => .exclude

def value : Entry → Written
  | latency n small => .whole n (Nat.lt_of_le_of_lt small (by decide))
  | records n small => .whole n small
  | recursive b => .boolean b
  | interests row => .texts (row.map plainInterest)
  | exclude row => .texts row

def pair (e : Entry) : Pair := ⟨e.key.bare, e.value⟩

def latency? : Entry → Option Binary64
  | latency n _ => some (Binary64.ofInt n)
  | _ => none

def records? : Entry → Option UInt64
  | records n _ => some n.toUInt64
  | _ => none

def recursive? : Entry → Option Bool
  | recursive b => some b
  | _ => none

def interests? : Entry → Option (List Interest)
  | interests row => some row.values
  | _ => none

def exclude? : Entry → Option (List String)
  | exclude row => some (row.values.map Plain.text)
  | _ => none

end Entry

def stated (given : List Entry) : Settings where
  latency := (given.findSome? Entry.latency?).getD default.latency
  bufferRecords := (given.findSome? Entry.records?).getD default.bufferRecords
  recursive := (given.findSome? Entry.recursive?).getD default.recursive
  interests := (given.findSome? Entry.interests?).getD default.interests
  exclude := (given.findSome? Entry.exclude?).getD default.exclude

def Entry.set (e : Entry) (s : Settings) : Settings where
  latency := e.latency?.getD s.latency
  bufferRecords := e.records?.getD s.bufferRecords
  recursive := e.recursive?.getD s.recursive
  interests := e.interests?.getD s.interests
  exclude := e.exclude?.getD s.exclude

theorem bareName (k : Key) : k.bare.name = k.name := String.ofList_toList

theorem keyNamed (k : Key) : Key.ofName? k.name = some k := by
  cases k <;> decide

theorem nameKnown (k : Key) : k.name ∈ Key.names := by
  cases k <;> decide

theorem nameApart : Function.Injective Key.name := fun k l same => by
  have read := congrArg Key.ofName? same
  rwa [keyNamed, keyNamed, Option.some_inj] at read

theorem keyUnknown {name : String} (other : name ∉ Key.names) : Key.ofName? name = none := by
  rw [Key.ofName?, List.find?_eq_none]
  intro k _
  have apart : k.name ≠ name := fun same => other (same ▸ nameKnown k)
  simpa using apart

section Reading

theorem eachRead {α : Type} {read : Toml.Value → Except Misfit β} {f : α → Toml.Value} {g : α → β}
    (told : ∀ x, read (f x) = .ok (g x)) (xs : List α) : (xs.map f).mapM read = .ok (xs.map g) := by
  induction xs with
  | nil => rfl
  | cons x xs ih =>
    rw [List.map_cons, List.mapM_cons, told, ih]
    rfl

theorem interestRead (i : Interest) :
    readInterest (.string (plainInterest i).text) = .ok i := by
  rw [Plain.text, plainInterest, String.ofList_toList]
  cases i <;> decide

theorem entryRead (s : Settings) (e : Entry) : setEntry s e.pair.entry = .ok (e.set s) := by
  have named : Key.ofName? e.pair.entry.1 = some e.key := by
    rw [Pair.entry, Entry.pair, bareName, keyNamed]
  rw [setEntry, named]
  cases e with
  | latency n small => rfl
  | records n small => rfl
  | recursive b => rfl
  | interests row =>
    have read := eachRead (g := id) interestRead row.values
    simp only [Pair.entry, Entry.pair, Entry.value, Written.value, Entry.key, readItems,
      Row.mapValues, List.map_map, Function.comp_def, read, List.map_id]
    rfl
  | exclude row =>
    have text (p : Plain) : readText (.string p.text) = .ok p.text := rfl
    have read := eachRead text row.values
    simp only [Pair.entry, Entry.pair, Entry.value, Written.value, Entry.key, readItems, read]
    rfl

theorem entriesRead (s : Settings) (given : List Entry) :
    (given.map fun e => e.pair.entry).foldlM setEntry s =
      .ok (given.foldl (fun s e => e.set s) s) := by
  induction given generalizing s with
  | nil => rfl
  | cons e given ih =>
    rw [List.map_cons, List.foldlM_cons, entryRead]
    exact ih (e.set s)

end Reading

/-- A field of the settings with what an entry gives it, which only the entries of one key do. -/
structure Field (β : Type) where
  get : Settings → β
  given? : Entry → Option β
  key : Key
  set : ∀ e s, get (e.set s) = (given? e).getD (get s)
  own : ∀ e x, given? e = some x → e.key = key

namespace Field

def latency : Field Binary64 where
  get := Settings.latency
  given? := Entry.latency?
  key := .latency
  set _ _ := rfl
  own e _ given := by cases e <;> first | rfl | nomatch given

def records : Field UInt64 where
  get := Settings.bufferRecords
  given? := Entry.records?
  key := .records
  set _ _ := rfl
  own e _ given := by cases e <;> first | rfl | nomatch given

def recursive : Field Bool where
  get := Settings.recursive
  given? := Entry.recursive?
  key := .recursive
  set _ _ := rfl
  own e _ given := by cases e <;> first | rfl | nomatch given

def interests : Field (List Interest) where
  get := Settings.interests
  given? := Entry.interests?
  key := .interests
  set _ _ := rfl
  own e _ given := by cases e <;> first | rfl | nomatch given

def exclude : Field (List String) where
  get := Settings.exclude
  given? := Entry.exclude?
  key := .exclude
  set _ _ := rfl
  own e _ given := by cases e <;> first | rfl | nomatch given

variable {e : Entry} {given : List Entry} {x : β} (f : Field β)

theorem givenOnce (once : (given.map Entry.key).Nodup) (inside : e ∈ given)
    (here : f.given? e = some x) : given.findSome? f.given? = some x := by
  have told : given.findSome? f.given? ≠ none := fun silent => by
    simpa [here] using List.findSome?_eq_none_iff.mp silent e inside
  obtain ⟨y, found⟩ := Option.ne_none_iff_exists'.mp told
  obtain ⟨d, there, other⟩ := List.exists_of_findSome?_eq_some found
  obtain rfl : d = e :=
    List.inj_on_of_nodup_map once there inside ((f.own d y other).trans (f.own e x here).symm)
  rw [found, ← other, here]

/-- A field is as the one entry of its key has it, or as it was before. -/
theorem afterAll (s : Settings) (given : List Entry) (once : (given.map Entry.key).Nodup) :
    f.get (given.foldl (fun s e => e.set s) s) = (given.findSome? f.given?).getD (f.get s) := by
  induction given generalizing s with
  | nil => rfl
  | cons e given ih =>
    have more := (List.nodup_cons.mp once).2
    rw [List.foldl_cons, ih _ more, f.set]
    cases here : f.given? e with
    | none => simp [here]
    | some x =>
      have first := f.givenOnce once List.mem_cons_self here
      rw [first]
      cases behind : given.findSome? f.given? with
      | none => rfl
      | some y =>
        -- One more value behind would be the one entry's of this key as well, and so the same.
        obtain ⟨d, inside, other⟩ := List.exists_of_findSome?_eq_some behind
        have second := f.givenOnce once (List.mem_cons_of_mem e inside) other
        exact Option.some.inj (second.symm.trans first)

end Field

theorem allSet (given : List Entry) (once : (given.map Entry.key).Nodup) :
    given.foldl (fun s e => e.set s) default = stated given := by
  have field {β : Type} (f : Field β) := f.afterAll default given once
  exact (mk.injEq ..).mpr ⟨field .latency, field .records, field .recursive, field .interests,
    field .exclude⟩

def file (b : Break) (lines : List (Line Entry)) : String :=
  Toml.text b (lines.map (Line.map Entry.pair))

theorem namesGiven (given : List Entry) :
    ((given.map Entry.pair).map fun p => p.key.name) = (given.map Entry.key).map Key.name := by
  simp only [List.map_map]
  exact List.map_congr_left fun e _ => bareName e.key

theorem fileRead (b : Break) (lines : List (Line Entry))
    (once : ((Toml.entries lines).map Entry.key).Nodup) :
    ofDocument (file b lines) = .ok (stated (Toml.entries lines)) := by
  have names :
      ((Toml.entries (lines.map (Line.map Entry.pair))).map fun p => p.key.name).Nodup := by
    rw [Toml.entriesMap, namesGiven]
    exact once.map nameApart
  rw [ofDocument, file, Toml.documentRead b _ names, Toml.entriesMap, List.map_map]
  exact (entriesRead default _).trans (congrArg Except.ok (allSet _ once))

/-- A key that is no setting's decides, wherever it stands. -/
theorem strayRead (b : Break) (before after : List (Line Entry)) (stray : Pair)
    (indent front behind last : Gap)
    (once : ((Toml.entries (before ++ after)).map Entry.key).Nodup)
    (other : stray.key.name ∉ Key.names) :
    ofDocument (Toml.text b (before.map (Line.map Entry.pair) ++
      .entry indent front behind last stray :: after.map (Line.map Entry.pair))) =
      .error (.unknownKey stray.key.name Key.names) := by
  have entries : Toml.entries (before.map (Line.map Entry.pair) ++
      .entry indent front behind last stray :: after.map (Line.map Entry.pair)) =
      (Toml.entries before).map Entry.pair ++ stray :: (Toml.entries after).map Entry.pair := by
    rw [Toml.entriesAppend, Toml.entriesCons, Toml.entriesMap, Toml.entriesMap]
    rfl
  have names : (((Toml.entries before).map Entry.pair ++
      stray :: (Toml.entries after).map Entry.pair).map fun p => p.key.name).Nodup := by
    rw [Toml.entriesAppend, List.map_append] at once
    rw [List.map_append, List.map_cons, List.nodup_middle, namesGiven, namesGiven,
      ← List.map_append, List.nodup_cons]
    refine ⟨fun inside => ?_, once.map nameApart⟩
    obtain ⟨k, -, same⟩ := List.mem_map.mp inside
    exact other (same ▸ nameKnown k)
  -- All before the stray key is read, and what comes behind it is not reached.
  have read : ((Toml.entries before).map (Pair.entry ∘ Entry.pair)).foldlM setEntry default =
      .ok _ := entriesRead default (Toml.entries before)
  have refused (s : Settings) :
      setEntry s stray.entry = .error (.unknownKey stray.key.name Key.names) := by
    rw [setEntry, Pair.entry, keyUnknown other]
  rw [ofDocument, Toml.documentRead b _ (entries ▸ names), entries]
  simp only [List.map_append, List.map_cons, List.map_map, List.foldlM_append, List.foldlM_cons,
    read, refused, bind, Except.bind]

/-- A file that gives each setting at most once is read as the default settings but for what it
gives, which are then checked; whole numbers are kept exactly, also as a number of seconds. With one
more line, anywhere, whose key is no setting's, the file is refused for that key. -/
theorem namedFieldsOnly (b : Break) (lines : List (Line Entry))
    (once : ((Toml.entries lines).map Entry.key).Nodup) :
    let c := stated (Toml.entries lines)
    ofText (file b lines) = (c.validate.map fun _ => c) ∧
      (∀ (n : Nat) small, .latency n small ∈ Toml.entries lines → c.latency.value? = some (n : ℚ)) ∧
      (∀ (n : Nat) small, .records n small ∈ Toml.entries lines → c.bufferRecords.toNat = n) ∧
      ∀ before after, lines = before ++ after →
        ∀ (other : BareKey) (w : Written) (indent front behind last : Gap),
          other.name ∉ Key.names →
          ofText (Toml.text b (before.map (Line.map Entry.pair) ++
            .entry indent front behind last ⟨other, w⟩ :: after.map (Line.map Entry.pair))) =
            .error (.badSettings (.document (.unknownKey other.name Key.names))) := by
  intro c
  refine ⟨?_, ?_, ?_, ?_⟩
  · rw [ofText, fileRead b lines once]
  · intro n small inside
    have given := Field.latency.givenOnce once inside rfl
    have latency : c.latency = Binary64.ofInt n := congrArg (Option.getD · _) given
    rw [latency, Binary64.wholeExact small]
  · intro n small inside
    have given := Field.records.givenOnce once inside rfl
    have records : c.bufferRecords = n.toUInt64 := congrArg (Option.getD · _) given
    rw [records, Nat.toUInt64_eq, UInt64.toNat_ofNat']
    omega
  · rintro before after rfl other w indent front behind last apart
    rw [ofText, strayRead b before after ⟨other, w⟩ indent front behind last once apart]

/-- Three settings in an order of their own, and a slip in the name of a fourth. -/
theorem threeGiven :
    let before : List (Line Entry) := [
      .comment .none ⟨" over night".toList, by decide⟩,
      .entry .none .space .space .none (.exclude ⟨[⟨.none, ⟨"*.tmp".toList, by decide⟩, .none⟩,
        ⟨.space, ⟨"".toList, by decide⟩, .space⟩], true, .none⟩),
      .blank .none]
    let after : List (Line Entry) := [
      .entry .space .none .space .none (.interests ⟨[⟨.none, .lastWrite, .none⟩,
        ⟨.none, .fileName, .none⟩, ⟨.space, .lastWrite, .none⟩], false, .space⟩),
      .entry .none .space .space .space (.latency 30 (by decide)),
      .blank .none]
    let text (more : String) := "# over night\nexclude = [\"*.tmp\", \"\" ,]\n\n" ++ more ++
      " filters= [\"last_write\",\"file_name\", \"last_write\" ]\nlatency_secs = 30 \n"
    let c : Settings :=
      ⟨⟨0x403E000000000000⟩, 128, true, [.lastWrite, .fileName, .lastWrite], ["*.tmp", ""]⟩
    ((Toml.entries (before ++ after)).map Entry.key).Nodup ∧
      ofText (text "") = .ok c ∧ c.latency.value? = some 30 ∧
      ofText (text "recursiv = true\n") =
        .error (.badSettings (.document (.unknownKey "recursiv" Key.names))) := by
  intro before after text c
  have once : ((Toml.entries (before ++ after)).map Entry.key).Nodup := by decide
  have shown : text "" = file .feed (before ++ after) := by decide +kernel
  have settings : stated (Toml.entries (before ++ after)) = c := by decide +kernel
  have accepted : c.validate = .ok () := by decide +kernel
  obtain ⟨read, latency, -, stray⟩ := namedFieldsOnly .feed (before ++ after) once
  rw [settings, accepted, ← shown] at read
  rw [settings] at latency
  have given : .latency 30 (by decide) ∈ Toml.entries (before ++ after) := by
    simp [before, after, Toml.entries, Line.entry?]
  refine ⟨once, read, latency 30 _ given, ?_⟩
  have slipped : text "recursiv = true\n" = Toml.text .feed (before.map (Line.map Entry.pair) ++
      .entry .none .space .space .none ⟨⟨"recursiv".toList, by decide, by decide⟩, .boolean true⟩ ::
        after.map (Line.map Entry.pair)) := by decide +kernel
  rw [slipped]
  exact stray before after rfl _ _ _ _ _ _ (by decide)

end FolderWatch.Settings
