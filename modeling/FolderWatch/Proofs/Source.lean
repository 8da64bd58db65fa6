import FolderWatch.Proofs.Monitor.Lane

/-! What the operations of a source leave alone. An operation for one folder changes no other
folder's script, no switch, and nothing about a number given out before. -/
namespace FolderWatch.Source

@[simp] theorem scriptSet (s : Source) (f : Folder) (x : Script) :
    (s.setScript f x).script f = x := by
  simp [script, setScript, Table.getSet]

theorem scriptSetOther (s : Source) {f g : Folder} (x : Script) (other : g ≠ f) :
    (s.setScript f x).script g = s.script g := by
  simp [script, setScript, Table.getSet, Ne.symm other]

theorem setKeeps {β : Type} (part : Script → β) (s : Source) (f g : Folder) (x : Script)
    (same : part x = part (s.script g)) : part ((s.setScript g x).script f) = part (s.script f) := by
  by_cases here : f = g
  · rw [here, scriptSet, same]
  · rw [scriptSetOther s x here]

@[simp] theorem noteNothing (s : Source) (b : Breach) : s.noteIf false b = s := rfl

structure Kept (f : Folder) (s t : Source) : Prop where
  scripts : ∀ g, g ≠ f → t.script g = s.script g
  failCompletions : t.failCompletions = s.failCompletions
  failResets : t.failResets = s.failResets
  folders : ∀ h, h < s.next → t.folders.get? h = s.folders.get? h
  next : s.next ≤ t.next
  cancels : t.cancels = s.cancels
  breaches : t.breaches = s.breaches

variable {f : Folder} {s t u : Source}

theorem Kept.refl (f : Folder) (s : Source) : Kept f s s :=
  ⟨fun _ _ => rfl, rfl, rfl, fun _ _ => rfl, Nat.le_refl _, rfl, rfl⟩

theorem Kept.trans (first : Kept f s t) (second : Kept f t u) : Kept f s u where
  scripts g other := (second.scripts g other).trans (first.scripts g other)
  failCompletions := second.failCompletions.trans first.failCompletions
  failResets := second.failResets.trans first.failResets
  folders h old := (second.folders h (Nat.lt_of_lt_of_le old first.next)).trans (first.folders h old)
  next := Nat.le_trans first.next second.next
  cancels := second.cancels.trans first.cancels
  breaches := second.breaches.trans first.breaches

structure Steady (f : Folder) (s t : Source) : Prop where
  kept : Kept f s t
  live : t.live = s.live
  next : t.next = s.next

theorem Steady.trans (first : Steady f s t) (second : Steady f t u) : Steady f s u :=
  ⟨first.kept.trans second.kept, second.live.trans first.live, second.next.trans first.next⟩

theorem keptSetScript (s : Source) (f : Folder) (x : Script) : Kept f s (s.setScript f x) :=
  { Kept.refl f s with scripts := fun _ other => scriptSetOther s x other }

theorem steadySetScript (s : Source) (f : Folder) (x : Script) : Steady f s (s.setScript f x) :=
  ⟨keptSetScript s f x, rfl, rfl⟩

theorem keptClose (s : Source) (f : Folder) (h : Nat) : Kept f s (s.close h) :=
  { Kept.refl f s with }

def counted (s : Source) : Source := { s with resets := s.resets + 1 }

theorem steadyCounted (s : Source) (f : Folder) : Steady f s s.counted :=
  ⟨{ Kept.refl f s with }, rfl, rfl⟩

theorem resetRefused (fails : s.failResets = true) : s.reset = (some invalidHandle, s.counted) := by
  simp only [reset, fails, if_true, counted]

theorem resetWorks (works : s.failResets = false) : s.reset = (none, s.counted) := by
  simp only [reset, works, Bool.false_eq_true, if_false, counted]

theorem popHead (s : Source) (f : Folder) :
    ∃ t, s.pop f = ((s.script f).outcomes.headD .pending, t) ∧ Steady f s t ∧
      t.script f = (s.script f).advanced ∧ t.resets = s.resets := by
  cases queue : (s.script f).outcomes with
  | nil =>
    have same : (s.script f).advanced = s.script f := by
      simp only [Script.advanced, queue, List.tail_nil]
      rw [← queue]
    exact ⟨s, by simp only [pop, queue, List.headD_nil], ⟨Kept.refl f s, rfl, rfl⟩, same.symm, rfl⟩
  | cons o rest =>
    refine ⟨s.setScript f { s.script f with outcomes := rest }, ?_, steadySetScript _ _ _, ?_, rfl⟩
    · simp only [pop, queue, List.headD_cons]
    · rw [scriptSet, Script.advanced, queue, List.tail_cons]

structure Handed (f : Folder) (s t : Source) : Prop where
  kept : Kept f s t
  live : t.live = s.live ++ [s.next]
  next : t.next = s.next + 1
  resets : t.resets = s.resets

theorem openFolderSucceeds (left : (s.script f).openFailures = 0) :
    ∃ t, s.openFolder f = (.ok s.next, t) ∧ Handed f s t ∧ t.folders.get? s.next = some f ∧
      t.script f = (s.script f).opened := by
  have result : s.openFolder f =
      (.ok s.next, { s.newHandle.2 with folders := s.folders.set s.next f }.setScript f
        (s.script f).opened) := by
    simp only [openFolder]
    split
    · omega
    · rfl
  refine ⟨_, result, ⟨⟨?_, rfl, rfl, ?_, Nat.le_succ _, rfl, rfl⟩, rfl, rfl, rfl⟩, ?_,
    scriptSet _ _ _⟩
  · intro g other
    exact scriptSetOther _ _ other
  · intro h old
    have different : s.next ≠ h := by omega
    simp only [setScript, Table.getSet, different, if_false]
  · simp only [setScript, Table.getSet, if_true]

theorem createCompletionSucceeds (f : Folder) (works : s.failCompletions = false) :
    ∃ t, s.createCompletion = (.ok s.next, t) ∧ Handed f s t ∧ t.folders = s.folders ∧
      t.script f = s.script f := by
  have result : s.createCompletion = (.ok s.next, s.newHandle.2) := by
    simp only [createCompletion, works, Bool.false_eq_true, if_false]
    rfl
  exact ⟨_, result, ⟨⟨fun _ _ => rfl, rfl, rfl, fun _ _ => rfl, Nat.le_succ _, rfl, rfl⟩, rfl, rfl,
    rfl⟩, rfl, rfl⟩

/-- The source knows no number that it has not given out. -/
structure Numbered (s : Source) : Prop where
  given : ∀ h ∈ s.live, h < s.next
  positive : 0 < s.next

theorem Handed.numbered (handed : Handed f s t) (numbered : s.Numbered) : t.Numbered where
  given := by
    intro h inside
    rw [handed.live] at inside
    rw [handed.next]
    rcases List.mem_append.mp inside with old | new
    · have less := numbered.given h old
      omega
    · rw [List.mem_singleton.mp new]
      exact Nat.lt_succ_self _
  positive := by
    rw [handed.next]
    exact Nat.succ_pos _

theorem Numbered.setScript (numbered : s.Numbered) (f : Folder) (x : Script) :
    (s.setScript f x).Numbered :=
  ⟨numbered.given, numbered.positive⟩

theorem Numbered.close (numbered : s.Numbered) (h : Nat) : (s.close h).Numbered where
  given := fun _ inside => numbered.given _ (List.mem_filter.mp inside).1
  positive := numbered.positive

theorem editSame (s : Source) (e : Edit) :
    (s.edit e).folders = s.folders ∧ (s.edit e).live = s.live ∧ (s.edit e).next = s.next ∧
      (s.edit e).cancels = s.cancels ∧ (s.edit e).breaches = s.breaches := by
  cases e <;> exact ⟨rfl, rfl, rfl, rfl, rfl⟩

theorem Numbered.alike (numbered : s.Numbered) (live : t.live = s.live) (next : t.next = s.next) :
    t.Numbered :=
  ⟨fun h inside => next ▸ numbered.given h (live ▸ inside), next ▸ numbered.positive⟩

theorem freshNumbered : fresh.Numbered := ⟨fun _ inside => (nomatch inside), Nat.one_pos⟩

theorem Numbered.edited (numbered : s.Numbered) (e : Edit) : (s.edit e).Numbered := by
  obtain ⟨-, live, next, -, -⟩ := s.editSame e
  exact numbered.alike live next

theorem Numbered.opened (numbered : s.Numbered) (f : Folder) : (s.openFolder f).2.Numbered := by
  cases failures : (s.script f).openFailures with
  | succ n =>
    simp only [openFolder, failures]
    exact numbered.setScript _ _
  | zero =>
    obtain ⟨t, opening, handed, -, -⟩ := openFolderSucceeds failures
    rw [opening]
    exact handed.numbered numbered

theorem Numbered.completed (numbered : s.Numbered) : s.createCompletion.2.Numbered := by
  cases fails : s.failCompletions with
  | true =>
    simp only [createCompletion, fails, if_true]
    exact numbered
  | false =>
    obtain ⟨t, creating, handed, -, -⟩ := createCompletionSucceeds (.ofText "") fails
    rw [creating]
    exact handed.numbered numbered

theorem issueSame (s : Source) (dir : Nat) (r : Request) :
    (s.issue dir r).2.live = s.live ∧ (s.issue dir r).2.next = s.next ∧
      (s.issue dir r).2.resets = s.resets := by
  unfold issue noteIf
  split
  · exact ⟨rfl, rfl, rfl⟩
  · dsimp only
    split <;> split <;> split <;> exact ⟨rfl, rfl, rfl⟩

theorem checkNumbers (s : Source) (dir : Nat) (r : Request) (b : Buffer) :
    (s.check dir r b).source.live = s.live ∧ (s.check dir r b).source.next = s.next := by
  unfold check noteIf
  split
  · exact ⟨rfl, rfl⟩
  · next f known =>
    obtain ⟨t, popped, steady, -, -⟩ := s.popHead f
    rw [popped]
    exact ⟨steady.live, steady.next⟩

inductive Used : Source → Prop
  | fresh : Used fresh
  | edited {s : Source} (used : Used s) (e : Edit) : Used (s.edit e)
  | opened {s : Source} (used : Used s) (f : Folder) : Used (s.openFolder f).2
  | completed {s : Source} (used : Used s) : Used s.createCompletion.2
  | issued {s : Source} (used : Used s) (dir : Nat) (r : Request) : Used (s.issue dir r).2
  | checked {s : Source} (used : Used s) (dir : Nat) (r : Request) (b : Buffer) :
      Used (s.check dir r b).source
  | reset {s : Source} (used : Used s) : Used s.reset.2
  | cancelled {s : Source} (used : Used s) (r : Request) : Used (s.cancel r).2
  | closed {s : Source} (used : Used s) (h : Nat) : Used (s.close h)

theorem Used.numbered (used : s.Used) : s.Numbered := by
  induction used with
  | fresh => exact freshNumbered
  | edited _ e ih => exact ih.edited e
  | opened _ f ih => exact ih.opened f
  | completed _ ih => exact ih.completed
  | issued _ dir r ih =>
    obtain ⟨live, next, -⟩ := issueSame _ dir r
    exact ih.alike live next
  | checked _ dir r b ih =>
    obtain ⟨live, next⟩ := checkNumbers _ dir r b
    exact ih.alike live next
  | reset _ ih => exact ih.alike rfl rfl
  | cancelled _ r ih =>
    unfold cancel
    split <;> exact ih.alike rfl rfl
  | closed _ h ih => exact ih.close h

theorem closeNew {live : List Nat} {n : Nat} (given : ∀ h ∈ live, h < n) :
    (live ++ [n]).filter (· != n) = live := by
  have others : live.filter (· != n) = live := by
    apply List.filter_eq_self.mpr
    intro h inside
    have less := given h inside
    simp only [bne_iff_ne, ne_eq]
    omega
  simp [List.filter_append, others]

theorem closePair {before after : List Nat} {d c : Nat}
    (others : ∀ h ∈ before ++ after, h ≠ d ∧ h ≠ c) :
    ((before ++ [d, c] ++ after).filter (· != d)).filter (· != c) = before ++ after := by
  have kept : ∀ xs : List Nat, (∀ h ∈ xs, h ≠ d ∧ h ≠ c) →
      (xs.filter (· != d)).filter (· != c) = xs := by
    intro xs inside
    rw [List.filter_filter]
    apply List.filter_eq_self.mpr
    intro h member
    simp [inside h member]
  simp only [List.filter_append, kept before (fun h m => others h (List.mem_append_left _ m)),
    kept after (fun h m => others h (List.mem_append_right _ m))]
  simp

theorem closeLast {live : List Nat} {d c : Nat} (older : ∀ h ∈ live, h < d) (order : d < c) :
    ((live ++ [d, c]).filter (· != d)).filter (· != c) = live := by
  have others : ∀ h ∈ live ++ [], h ≠ d ∧ h ≠ c := by
    intro h inside
    have less := older h (by simpa using inside)
    constructor <;> omega
  simpa using closePair others

theorem onceApart {before after : List Nat} {d c : Nat}
    (once : (before ++ [d, c] ++ after).Nodup) : ∀ h ∈ before ++ after, h ≠ d ∧ h ≠ c := by
  intro h inside
  simp only [List.append_assoc, List.cons_append, List.nil_append, List.nodup_append,
    List.nodup_cons, List.mem_cons] at once
  rcases List.mem_append.mp inside with inside | inside
  · exact ⟨once.2.2 h inside d (.inl rfl), once.2.2 h inside c (.inr (.inl rfl))⟩
  · constructor
    · rintro rfl
      exact once.2.1.1 (.inr inside)
    · rintro rfl
      exact once.2.1.2.1 inside

end FolderWatch.Source
