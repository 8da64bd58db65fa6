import FolderWatch.Exclude.PatternError
import FolderWatch.Misfit
import FolderWatch.Number.Decimal
/-! What makes settings unusable. -/
namespace FolderWatch

inductive Flaw
  | latencyNotPositive (latency : Binary64)
  | latencyTooLong (latency : Binary64)
  | noRecords
  | bufferTooLarge (records : UInt64) (bytes : Nat)
  | nothingWatched
  | document (misfit : Misfit)
  | pattern (line : String) (error : Exclude.PatternError)
  | stated (text : String)
  deriving DecidableEq, Repr

namespace Flaw

/-- Largest buffer that the system takes for network shares. -/
def maxBufferBytes : Nat := 64 * 1024

def message : Flaw → String
  | latencyNotPositive x =>
      "latency_secs must be a positive number of seconds, got " ++ x.text
  | latencyTooLong x =>
      "latency_secs = " ++ x.text ++ " is out of range: " ++
        "cannot convert float seconds to Duration: value is either too big or NaN"
  | noRecords => "buffer_records must be at least 1"
  | bufferTooLarge records bytes =>
      s!"buffer_records = {records} needs {bytes} bytes, limit is {maxBufferBytes}"
  | nothingWatched => "filters must name at least one change class"
  | document m => "TOML: " ++ m.message
  | pattern line e => "bad exclude pattern '" ++ line ++ "': " ++ e.message
  | stated text => text

end Flaw
end FolderWatch
