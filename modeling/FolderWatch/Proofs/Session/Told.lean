import FolderWatch.Proofs.Session

/-! What a session complains of. It tells on its own what it lost of a read and why it is of no more
use; starting it, issuing its reads and releasing it are not worth a warning. -/
namespace FolderWatch

namespace Message

def loud (log : List Message) : List Message := log.filter (·.shownAt .warn)

def said (level : Level) (log : List Message) : List Message := log.filter (·.level = level)

def ofFault (fault : Fault) : Message := if fault.isFatal then fatal fault else recoverable fault

theorem loudAppend (early late : List Message) : loud (early ++ late) = loud early ++ loud late :=
  List.filter_append ..

theorem saidAppend (level : Level) (early late : List Message) :
    said level (early ++ late) = said level early ++ said level late :=
  List.filter_append ..

theorem saidLoud {level : Level} (shown : level.rank ≤ Level.warn.rank) (log : List Message) :
    said level (loud log) = said level log := by
  rw [said, loud, List.filter_filter]
  apply List.filter_congr
  intro message _
  by_cases same : message.level = level <;> simp [same, shownAt, shown]

end Message

open Message (loud said ofFault loudAppend)

namespace Chain

theorem remarksQuiet (c : Chain) : loud c.remarks = [] := by
  rw [loud, List.filter_eq_nil_iff]
  intro message inside
  obtain ⟨r, -, own⟩ := List.mem_filterMap.mp inside
  unfold Record.remark? at own
  split at own
  · cases own
  · cases own
    exact Bool.false_ne_true

end Chain

namespace Outcome

def complaint? (size : Nat) (f : Folder) : Outcome → Option Message
  | .records bytes =>
      if 0 < bytes.length ∧ bytes.length ≤ size then
        (Chain.read bytes).fault?.map (.discarding f)
      else some (.tooSmall f size)
  | .nothing => some (.tooSmall f size)
  | .overflow => some (.overflowed f)
  | .pending | .failure _ => none

theorem complaintWarns {size : Nat} {f : Folder} {o : Outcome} {message : Message}
    (inside : message ∈ (o.complaint? size f).toList) : message.level = .warn := by
  rw [Option.mem_toList] at inside
  unfold complaint? at inside
  split at inside
  · split at inside
    · obtain ⟨fault, -, rfl⟩ := Option.map_eq_some_iff.mp inside
      rfl
    · cases inside
      rfl
  all_goals cases inside
  all_goals rfl

theorem complaintSaid (size : Nat) (f : Folder) (o : Outcome) :
    said .warn (o.complaint? size f).toList = (o.complaint? size f).toList ∧
      said .error (o.complaint? size f).toList = [] := by
  constructor
  · exact List.filter_eq_self.mpr fun message inside => by simp [complaintWarns inside]
  · exact List.filter_eq_nil_iff.mpr fun message inside => by simp [complaintWarns inside]

end Outcome

namespace Poll

def complaints : Except Fault Poll → List Message
  | .error fault => [ofFault fault]
  | .ok p => p.failure.toList.map ofFault

variable {failResets : Bool} {f : Folder} {p : Poll} {e : Fault}

theorem Answers.warns (answers : Answers failResets f (.ok p)) :
    said .error (complaints (.ok p)) = [] ∧
      (said .warn (complaints (.ok p))).length = p.mustEvict.toNat := by
  cases answers <;> exact ⟨rfl, rfl⟩

theorem Answers.ends (answers : Answers failResets f (.error e)) :
    said .error (complaints (.error e)) = [.fatal e] := by
  cases answers
  rfl

end Poll

namespace Session

variable {source : Source} {size : Nat} {s : Session}

theorem issueTells (s : Session) (source : Source) : loud (s.issue source).log = [] ∧
    ∀ fault ∈ (s.issue source).value.2, fault.isFatal = false := by
  unfold issue
  split
  · exact ⟨rfl, fun _ none => nomatch none⟩
  · refine ⟨rfl, fun fault own => ?_⟩
    cases own
    rfl

theorem releaseTells (s : Session) (source : Source) : loud (s.release source).log = [] := by
  unfold release
  cases s.outstanding <;> rfl

theorem startTells (source : Source) (f : Folder) (settings : Settings) :
    loud (start source f settings).log = [] := by
  unfold start
  split
  · rfl
  split
  · rfl
  split
  · rfl
  · dsimp only
    split
    · exact (issueTells _ _).1
    · rw [loudAppend, releaseTells, List.append_nil]
      exact (issueTells _ _).1

theorem rearmTells (s : Session) (source : Source) (reading : Reading) (log : List Message) :
    loud (s.rearm source reading log).log =
      loud log ++ Poll.complaints (s.rearm source reading log).value.2 := by
  unfold rearm
  split
  · exact loudAppend _ _
  · next after _ =>
    obtain ⟨quiet, recoverable⟩ := s.issueTells after
    dsimp only
    split
    · rw [loudAppend, quiet]
      rfl
    · next fault answer =>
      have spared : ofFault fault = .recoverable fault :=
        if_neg (by rw [recoverable fault (congrArg Prod.snd answer)]; decide)
      rw [loudAppend, loudAppend, quiet, List.append_nil]
      exact congrArg (loud log ++ [·]) spared.symm

theorem decodeTells (s : Session) : loud s.decode.2 =
    ((Chain.read (s.buffer.first s.bytesReturned)).fault?.map (.discarding s.folder)).toList := by
  unfold decode
  dsimp only
  rw [loudAppend, Chain.remarksQuiet]
  cases (Chain.read (s.buffer.first s.bytesReturned)).fault? <;> rfl

theorem changesTell {bytes : List UInt8} (own : s.buffer.first s.bytesReturned = bytes)
    (source : Source) (reading : Reading) (n : Nat) :
    let done := s.rearm source reading (.returned n s.folder :: s.decode.2)
    loud done.log = ((Chain.read bytes).fault?.map (.discarding s.folder)).toList ++
      Poll.complaints done.value.2 := by
  have quiet : loud (.returned n s.folder :: s.decode.2) = loud s.decode.2 := rfl
  rw [← own, ← decodeTells, ← quiet]
  exact rearmTells _ _ _ _

theorem pollTells (armed : s.Armed source size) : loud (s.poll source).log =
    (((source.script s.folder).outcomes.headD .pending).complaint? size s.folder).toList ++
      Poll.complaints (s.poll source).value.2 := by
  obtain ⟨t, popped, -, -, -⟩ := source.popHead s.folder
  simp only [poll, armed.waiting, Bool.not_true, Source.noteNothing, Source.check, armed.known,
    popped]
  cases (source.script s.folder).outcomes.headD .pending with
  | pending => rfl
  | failure kind => rfl
  | overflow => exact rearmTells _ _ _ _
  | nothing => exact armed.sized ▸ rearmTells _ _ _ _
  | records bytes =>
    -- Too many bytes for the buffer end the read with none, and are told as one that is too small.
    by_cases large : s.buffer.size < bytes.length
    · have unread : ¬ (0 < bytes.length ∧ bytes.length ≤ size) := by
        have sized := armed.sized
        omega
      simp only [Outcome.fill, large, Outcome.complaint?, unread, if_true, if_false]
      exact armed.sized ▸ rearmTells _ _ _ _
    · have fits : bytes.length ≤ s.buffer.size := Nat.le_of_not_lt large
      obtain ⟨answer, own⟩ := filled fits
      simp only [answer]
      cases length : bytes.length with
      | zero =>
        simp only [Outcome.complaint?, length, Nat.lt_irrefl, false_and, if_false]
        exact armed.sized ▸ rearmTells _ _ _ _
      | succ n =>
        rw [length] at own fits
        have read : 0 < n + 1 ∧ n + 1 ≤ size := ⟨Nat.succ_pos n, armed.sized ▸ fits⟩
        simp only [Outcome.complaint?, length, read, if_true, and_self]
        exact changesTell own _ _ _

end Session
end FolderWatch
