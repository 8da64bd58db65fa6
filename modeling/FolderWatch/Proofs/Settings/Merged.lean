import FolderWatch.Proofs.Settings.Usable
import FolderWatch.Settings.Overrides

/-! Settings of a file with those of a run laid over them. What is laid over decides the merged
settings alone; but a file has to be usable before, so a value that is laid over can still make the
file fail. -/
namespace FolderWatch

structure Overrides.Alike (o : Overrides) (s t : Settings) : Prop where
  latency : o.latency = Option.none → s.latency = t.latency
  records : o.bufferRecords = Option.none → s.bufferRecords = t.bufferRecords
  recursive : o.noRecursive = false → s.recursive = t.recursive
  interests : s.interests = t.interests
  exclude : s.exclude = t.exclude

namespace Settings

variable {read : List UInt8 → Except Failure (List UInt8)} {path : List UInt8}
variable {o : Overrides} {s t c : Settings}

/-- A file holds a document, and these are the settings that it describes, usable or not. -/
def Describes (read : List UInt8 → Except Failure (List UInt8)) (path : List UInt8)
    (s : Settings) : Prop :=
  ∃ bytes cs, read path = .ok bytes ∧ Utf8.decode? bytes = some cs ∧
    ofDocument (String.ofList cs) = .ok s

theorem applySame : o.apply s = o.apply t ↔ o.Alike s t := by
  constructor
  · intro same
    obtain ⟨latency, records, recursive, interests, exclude⟩ := mk.inj same
    refine ⟨fun unset => ?_, fun unset => ?_, fun unset => ?_, interests,
      List.append_cancel_right exclude⟩
    · simpa [unset] using latency
    · simpa [unset] using records
    · simpa [unset] using recursive
  · rintro ⟨latency, records, recursive, interests, exclude⟩
    rw [Overrides.apply, Overrides.apply, mk.injEq]
    refine ⟨?_, ?_, ?_, interests, congrArg (· ++ o.exclude) exclude⟩
    · cases set : o.latency with
      | none => simpa [set] using latency set
      | some x => rfl
    · cases set : o.bufferRecords with
      | none => simpa [set] using records set
      | some n => rfl
    · cases set : o.noRecursive with
      | false => simpa [set] using recursive set
      | true => simp

theorem ofFileDescribed (source : Describes read path s) :
    ofFile read path = s.validate.map fun _ => s := by
  obtain ⟨bytes, cs, file, text, document⟩ := source
  simp only [ofFile, file, text, ofText, document]

theorem loadOk (source : Describes read path s) : load read (some path) o = .ok c ↔
    s.validate = .ok () ∧ (o.apply s).validate = .ok () ∧ c = o.apply s := by
  rw [load]
  simp only [ofFileDescribed source]
  cases own : s.validate with
  | error fault => simp [Except.map]
  | ok =>
    cases merged : (o.apply s).validate with
    | error fault => simp [Except.map, merged]
    | ok => simp [Except.map, merged, eq_comm]

theorem toOptionSome {ε α : Type} {r : Except ε α} {a : α} : r.toOption = some a ↔ r = .ok a := by
  cases r <;> simp [Except.toOption]

theorem usableBelow (merged : Usable (o.apply s)) : Usable s ↔
    (∃ v, s.latency.value? = some v ∧ 0 < v ∧ v < 2 ^ 64) ∧
      1 ≤ s.bufferRecords.toNat ∧ s.bufferRecords.toNat ≤ 4096 :=
  ⟨fun usable => ⟨usable.spanned, usable.sized⟩, fun own => ⟨own.1, own.2, merged.watching⟩⟩

/-- Two files that differ only in what is laid over them are merged into the same settings. They
have the same outcome, too, unless those settings are usable and just one of the files is as it
stands: its own latency and buffer have to be in range even where they are laid over. -/
theorem mergedUnlessFileUnusable {other : List UInt8 → Except Failure (List UInt8)}
    {second : List UInt8} (source : Describes read path s) (twin : Describes other second t)
    (alike : o.Alike s t) :
    o.apply s = o.apply t ∧
      ((load read (some path) o).toOption = (load other (some second) o).toOption ↔
        ((o.apply s).validate = .ok () → (s.validate = .ok () ↔ t.validate = .ok ()))) ∧
      ∀ c, load read (some path) o = .ok c ↔
        ((∃ v, s.latency.value? = some v ∧ 0 < v ∧ v < 2 ^ 64) ∧
          1 ≤ s.bufferRecords.toNat ∧ s.bufferRecords.toNat ≤ 4096) ∧
        (o.apply s).validate = .ok () ∧ c = o.apply s := by
  have same := applySame.mpr alike
  refine ⟨same, ⟨fun outcome merged => ⟨fun own => ?_, fun own => ?_⟩, fun level => ?_⟩,
    fun c => ?_⟩
  · have taken := toOptionSome.mpr ((loadOk source).mpr ⟨own, merged, rfl⟩)
    rw [outcome, toOptionSome] at taken
    exact ((loadOk twin).mp taken).1
  · have taken := toOptionSome.mpr ((loadOk twin).mpr ⟨own, same ▸ merged, rfl⟩)
    rw [← outcome, toOptionSome] at taken
    exact ((loadOk source).mp taken).1
  · refine Option.ext fun c => ?_
    rw [toOptionSome, toOptionSome, loadOk source, loadOk twin, ← same]
    exact and_congr_left fun ⟨merged, _⟩ => level merged
  · rw [loadOk source, usableIff]
    exact and_congr_left fun ⟨merged, _⟩ => usableBelow (usableIff.mp merged)

theorem describesText {text : String} (file : read path = .ok (Utf8.ofString text))
    (plain : Utf8.decode? (Utf8.ofString text) = some text.toList)
    (document : ofDocument text = .ok s) : Describes read path s :=
  ⟨_, _, file, plain, by rwa [String.ofList_toList]⟩

def twoFiles (a b : String) (path : List UInt8) : Except Failure (List UInt8) :=
  if path = [0x61] then .ok (Utf8.ofString a)
  else if path = [0x62] then .ok (Utf8.ofString b)
  else .error ⟨.notFound, "No such file or directory (os error 2)"⟩

/-- Two files in range that differ in their latency, their buffer and their depth, all of which are
laid over. -/
theorem laidOverTwoFiles :
    let o : Overrides := ⟨some ⟨0x4000000000000000⟩, some 64, true, ["*.tmp"]⟩
    let read := twoFiles "latency_secs = 0.5\nrecursive = false\nexclude = [\"*.log\"]\n"
      "buffer_records = 4096\nexclude = [\"*.log\"]\n"
    let s : Settings := ⟨⟨0x3FE0000000000000⟩, 128, false, Interest.all, ["*.log"]⟩
    let t : Settings := ⟨.one, 4096, true, Interest.all, ["*.log"]⟩
    Describes read [0x61] s ∧ Describes read [0x62] t ∧ o.Alike s t ∧ o.apply s = o.apply t ∧
      (load read (some [0x61]) o).toOption = (load read (some [0x62]) o).toOption := by
  intro o read s t
  have source : Describes read [0x61] s :=
    describesText rfl (by decide +kernel) (by decide +kernel)
  have twin : Describes read [0x62] t :=
    describesText rfl (by decide +kernel) (by decide +kernel)
  have alike : o.Alike s t := ⟨nofun, nofun, nofun, rfl, rfl⟩
  obtain ⟨merged, level, -⟩ := mergedUnlessFileUnusable source twin alike
  have usable : s.validate = .ok () ∧ t.validate = .ok () := by decide +kernel
  exact ⟨source, twin, alike, merged, level.mpr fun _ => iff_of_true usable.1 usable.2⟩

/-- A latency below zero that is replaced by one of two seconds keeps the file from being taken
up. -/
theorem replacedLatencyRefused :
    let o : Overrides := { Overrides.none with latency := some ⟨0x4000000000000000⟩ }
    let read := twoFiles "latency_secs = -1.0\n" "latency_secs = 1.0\n"
    let s : Settings := { default with latency := ⟨0xBFF0000000000000⟩ }
    Describes read [0x61] s ∧ Describes read [0x62] default ∧ o.Alike s default ∧
      (load read (some [0x61]) o).toOption = none ∧
      (load read (some [0x62]) o).toOption = some (o.apply default) := by
  intro o read s
  have source : Describes read [0x61] s :=
    describesText rfl (by decide +kernel) (by decide +kernel)
  have twin : Describes read [0x62] default :=
    describesText rfl (by decide +kernel) (by decide +kernel)
  have alike : o.Alike s default := ⟨nofun, fun _ => rfl, fun _ => rfl, rfl, rfl⟩
  exact ⟨source, twin, alike, by decide +kernel, by decide +kernel⟩

end Settings
end FolderWatch
