import FolderWatch.Proofs.Monitor.History
import FolderWatch.Proofs.Text.Utf16

/-! The two forms of a folder's path. The units are those of the text and read back as it, so each
form tells the folder by itself, and the order of folders is that of their units: it differs from
the order of the characters where a pair stands against a character from U+E000 on. -/
namespace FolderWatch

namespace Utf16

theorem encodeSame {cs ds : List Char} : encode cs = encode ds ↔ cs = ds := by
  constructor
  · intro same
    rw [← decodeEncode cs, same, decodeEncode]
  · rintro rfl
    rfl

theorem compareLess (us vs : List UInt16) : Ord.compare us vs = .lt ↔ us < vs := by
  induction us generalizing vs with
  | nil => cases vs <;> simp [Ord.compare, List.compareLex]
  | cons u us ih =>
    cases vs with
    | nil => simp [Ord.compare, List.compareLex]
    | cons v vs =>
      have first : Ord.compare (u :: us) (v :: vs) =
          (Ord.compare u v).then (Ord.compare us vs) := List.compareLex_cons_cons
      rw [first, Ordering.then_eq_lt, List.cons_lt_cons_iff, Std.compare_eq_lt,
        Std.compare_eq_iff_eq]
      exact or_congr_right (and_congr_right fun _ => ih vs)

end Utf16

namespace Folder

variable {a b c : Folder}

def Agrees (f : Folder) : Prop := f.wide = Utf16.encode f.text.toList

theorem agrees (path : List UInt8) : (ofBytes path).Agrees := rfl

theorem wideText (one : a.Agrees) (other : b.Agrees) : a.wide = b.wide ↔ a.text = b.text := by
  rw [one, other, Utf16.encodeSame, String.toList_inj]

theorem sameWide (one : a.Agrees) (other : b.Agrees) : a = b ↔ a.wide = b.wide := by
  constructor
  · rintro rfl
    rfl
  · intro wide
    have text := (wideText one other).mp wide
    cases a
    cases b
    cases wide
    cases text
    rfl

theorem compareWide (one : a.Agrees) (other : b.Agrees) :
    a.compare b = Ord.compare a.wide b.wide := by
  rw [compare]
  cases order : Ord.compare a.wide b.wide with
  | lt => rfl
  | gt => rfl
  | eq =>
    rw [(wideText one other).mp (Std.compare_eq_iff_eq.mp order), Std.compare_self]
    rfl

end Folder

namespace Monitor

theorem distinctSnoc (fs : List Folder) (f : Folder) :
    distinct (fs ++ [f]) = if f ∈ fs then distinct fs else distinct fs ++ [f] := by
  have step : distinct (fs ++ [f]) =
      if (distinct fs).contains f then distinct fs else distinct fs ++ [f] := by
    rw [distinct, List.foldl_append]
    rfl
  simp only [step, List.contains_iff_mem, distinctMembers]

end Monitor

namespace Folder

/-- Both forms of a path, and every table of folders, tell the same directories apart: the units read
back as the text, the order is that of the units, and it is total. -/
theorem formsAgree (a b c : List UInt8) :
    Utf16.decode? (ofBytes a).wide = some (ofBytes a).text.toList ∧
      let x := ofBytes a
      let y := ofBytes b
      let z := ofBytes c
      (x = y ↔ x.text = y.text) ∧ (x = y ↔ x.wide = y.wide) ∧
      (x.compare y = .eq ↔ x = y) ∧
      (x.compare y = .lt ↔ x.wide < y.wide) ∧ (x.compare y = .gt ↔ y.wide < x.wide) ∧
      y.compare x = (x.compare y).swap ∧
      ((x.compare y).isLE → (y.compare z).isLE → (x.compare z).isLE) ∧
      (∀ (r : Registry) (s : Session), Table.get? (r.insert { s with folder := x }) y =
        if x.wide = y.wide then some { s with folder := x } else Table.get? r y) ∧
      (∀ paths : List (List UInt8),
        Monitor.distinct (paths.map ofBytes ++ [y]) =
          if ∃ p ∈ paths, (ofBytes p).wide = y.wide then Monitor.distinct (paths.map ofBytes)
          else Monitor.distinct (paths.map ofBytes) ++ [y]) ∧
      ∀ (source : Source) (script : Script), (source.setScript x script).script y =
        if x.wide = y.wide then script else source.script y := by
  refine ⟨by rw [agrees a, Utf16.strictEncode], ?_⟩
  intro x y z
  have order := compareWide (agrees a) (agrees b)
  have wide := sameWide (agrees a) (agrees b)
  refine ⟨?_, wide, ?_, ?_, ?_, ?_, ?_, ?_, ?_, ?_⟩
  · rw [wide, wideText (agrees a) (agrees b)]
  · rw [order, Std.compare_eq_iff_eq, wide]
  · rw [order, Utf16.compareLess]
  · rw [order, Std.OrientedCmp.gt_iff_lt, Utf16.compareLess]
  · rw [order, compareWide (agrees b) (agrees a)]
    exact Std.OrientedCmp.eq_swap
  · rw [order, compareWide (agrees b) (agrees c), compareWide (agrees a) (agrees c)]
    exact Std.TransCmp.isLE_trans
  · intro r s
    rw [Registry.insert, Table.getSet]
    simp only [wide, x, y]
  · intro paths
    have listed : y ∈ paths.map ofBytes ↔ ∃ p ∈ paths, (ofBytes p).wide = y.wide := by
      rw [List.mem_map]
      exact exists_congr fun p => and_congr_right fun _ => sameWide (agrees p) (agrees b)
    simp only [Monitor.distinctSnoc, listed]
  · intro source script
    rw [Source.script, Source.setScript, Table.getSet]
    split
    · next same => rw [if_pos (wide.mp same), Option.getD_some]
    · next other => rw [if_neg (mt wide.mpr other), Source.script]

/-- A character outside the basic plane, U+E000, and a byte that is no text: the first is the
greatest character and comes first in the order of units. -/
theorem pairBeforePrivateUse :
    let x := ofBytes [0xF0, 0x9F, 0x98, 0x80]
    let y := ofBytes [0xEE, 0x80, 0x80]
    let z := ofBytes [0xFF]
    x.wide = [0xD83D, 0xDE00] ∧ y.text < x.text ∧ Utf16.decode? x.wide = some x.text.toList ∧
      x.compare y = .lt ∧ (x.compare z).isLE := by
  intro x y z
  obtain ⟨read, -, -, -, less, -, -, further, -⟩ :=
    formsAgree [0xF0, 0x9F, 0x98, 0x80] [0xEE, 0x80, 0x80] [0xFF]
  exact ⟨by decide, by decide, read, less.mpr (by decide), further (by decide) (by decide)⟩

end Folder
end FolderWatch
