import FolderWatch.Proofs.Exclude.Seen

/-! What a filter leaves of the events of a read. One event that it does not answer takes all of them
with it. Below an absolute folder, or without a rule, there is none. -/
namespace FolderWatch.Exclude.Filter

open Utf8 (ofString)

variable {isFolder : String → Bool} {filter : Filter} {folder : Folder} {es kept : List Event}

theorem keepIff : filter.keep isFolder folder es = .ok kept ↔
    (∀ e ∈ es, filter.Answers isFolder folder e.path) ∧
      kept = es.filter fun e => filter.skips isFolder folder e.path = .ok false := by
  induction es generalizing kept with
  | nil => simp [keep, eq_comm]
  | cons e es ih =>
    rw [List.forall_mem_cons]
    cases answer : filter.skips isFolder folder e.path with
    | error panic => simp [keep, Answers, answer]
    | ok dropped =>
      have first : filter.Answers isFolder folder e.path := ⟨dropped, answer⟩
      cases rest : filter.keep isFolder folder es with
      | error panic =>
        have unanswered : ¬ ∀ e ∈ es, filter.Answers isFolder folder e.path := by
          intro all
          cases rest.symm.trans (ih.mpr ⟨all, rfl⟩)
        simp [keep, answer, rest, Except.map, unanswered]
      | ok left =>
        obtain ⟨all, rfl⟩ := ih.mp rest
        rw [and_iff_right ⟨first, all⟩]
        simp only [keep, answer, rest, Except.map, Except.ok.injEq, List.filter_cons]
        cases dropped <;> simp [eq_comm]

theorem keepShorter (left : filter.keep isFolder folder es = .ok kept) :
    kept.length ≤ es.length := by
  rw [(keepIff.mp left).2]
  exact List.length_filter_le _ _

theorem keepAnswers (answers : ∀ path, filter.Answers isFolder folder path) (es : List Event) :
    ∃ kept, filter.keep isFolder folder es = .ok kept :=
  ⟨_, keepIff.mpr ⟨fun e _ => answers e.path, rfl⟩⟩

theorem answersAbsolute (absolute : Path.isAbsolute (ofString folder.text) = true)
    (filter : Filter) (isFolder : String → Bool) (path : String) :
    filter.Answers isFolder folder path := by
  apply skipsAnswers
  intro below found filled
  obtain ⟨ss, _, trim, -, rfl, -⟩ :=
    Path.belowFurther (Path.absoluteFilled absolute) found filled []
  have some : ss ≠ [] := by
    rintro rfl
    exact filled rfl
  have start := (trim.start some).2
  rw [candidateAbsolute absolute start]
  exact unrootedIff.mpr (namedStart start).1

theorem answersUnruled (unruled : filter.rules = []) (folder : Folder) (isFolder : String → Bool)
    (path : String) : filter.Answers isFolder folder path := by
  unfold Answers skips judge
  rw [unruled]
  split
  · exact ⟨_, rfl⟩
  · dsimp only
    split
    · exact ⟨_, rfl⟩
    · split <;> exact ⟨_, rfl⟩

end FolderWatch.Exclude.Filter
