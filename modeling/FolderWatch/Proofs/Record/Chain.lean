import FolderWatch.Record.Chain

/-! Reading a chain of records one step at a time: the head of the bytes decides whether the
chain stops there, ends with this record, or goes on behind it. -/
namespace FolderWatch.Chain

theorem readFromShort {bytes : List UInt8} (offset : Nat) (short : Record.head? bytes = none) :
    readFrom offset bytes = ⟨[], some offset⟩ := by
  rw [readFrom.eq_def]
  cases bytes with
  | nil => rfl
  | cons b bytes => simp only [short]

variable {bytes : List UInt8} {head : RecordHead}

theorem readFromCut (offset : Nat) (known : Record.head? bytes = some head)
    (cut : head.body.length < head.nameLength) : readFrom offset bytes = ⟨[], some offset⟩ := by
  cases bytes with
  | nil => simp [Record.head?] at known
  | cons b bytes =>
    have short : (head.body.take head.nameLength).length < head.nameLength := by
      simp only [List.length_take]
      omega
    simp only [readFrom, known, short, if_true]

theorem readFromLast (offset : Nat) (known : Record.head? bytes = some head)
    (whole : head.nameLength ≤ head.body.length) (last : head.distance = 0) :
    readFrom offset bytes = ⟨[⟨offset, head.action, head.body.take head.nameLength⟩], none⟩ := by
  cases bytes with
  | nil => simp [Record.head?] at known
  | cons b bytes =>
    have long : ¬ (head.body.take head.nameLength).length < head.nameLength := by
      simp only [List.length_take]
      omega
    simp only [readFrom, known, long, if_false, last]

theorem readFromNext (offset : Nat) (known : Record.head? bytes = some head)
    (whole : head.nameLength ≤ head.body.length) (more : head.distance ≠ 0) :
    readFrom offset bytes =
      ⟨⟨offset, head.action, head.body.take head.nameLength⟩ ::
          (readFrom (offset + head.distance) (bytes.drop head.distance)).records,
        (readFrom (offset + head.distance) (bytes.drop head.distance)).stop⟩ := by
  cases bytes with
  | nil => simp [Record.head?] at known
  | cons b bytes =>
    have long : ¬ (head.body.take head.nameLength).length < head.nameLength := by
      simp only [List.length_take]
      omega
    obtain ⟨d, next⟩ : ∃ d, head.distance = d + 1 := Nat.exists_eq_succ_of_ne_zero more
    rw [readFrom]
    simp only [known, long, if_false, next, List.drop_succ_cons]

end FolderWatch.Chain
