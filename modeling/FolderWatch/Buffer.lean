import FolderWatch.Fault
/-! The buffer that a read fills. It is zero wherever nothing was written, and only the part
written so far is kept. -/
namespace FolderWatch

structure Buffer where
  size : Nat
  written : List UInt8
  deriving DecidableEq, Repr

namespace Buffer

/-- The size of the address space; a buffer whose padded length reaches it cannot be had. -/
def limit : Nat := 1 <<< 47

def allocate (size : Nat) : Except Fault Buffer :=
  if limit ≤ (size + 3) / 4 * 4 then .error (.noBuffer size) else .ok ⟨size, []⟩

def first (b : Buffer) (n : Nat) : List UInt8 :=
  let n := min n b.size
  b.written.take n ++ List.replicate (n - b.written.length) 0

def bytes (b : Buffer) : List UInt8 := b.first b.size

/-- The buffer with bytes written at an offset; what does not fit is not written. -/
def write (b : Buffer) (offset : Nat) (bs : List UInt8) : Buffer :=
  let kept := b.written.take offset ++ List.replicate (offset - b.written.length) 0
  let after := b.written.drop (offset + bs.length)
  ⟨b.size, (kept ++ bs ++ after).take b.size⟩

def debugText (b : Buffer) : String :=
  "NotifyBuffer \x7b len: " ++ toString b.size ++ " \x7d"

end Buffer
end FolderWatch
