import FolderWatch.Fault
import FolderWatch.Time.Duration
/-! How a watch is set up: how long to sleep, how much to buffer, what to ask for and what to
leave out. -/
namespace FolderWatch

inductive Interest
  | fileName
  | dirName
  | lastWrite
  | lastAccess
  | creation
  deriving DecidableEq, Repr

namespace Interest

def all : List Interest := [fileName, dirName, lastWrite, lastAccess, creation]

def name : Interest → String
  | fileName => "file_name"
  | dirName => "dir_name"
  | lastWrite => "last_write"
  | lastAccess => "last_access"
  | creation => "creation"

def ofName? (s : String) : Option Interest := all.find? (·.name == s)

def bit : Interest → UInt32
  | fileName => 0x01
  | dirName => 0x02
  | lastWrite => 0x10
  | lastAccess => 0x20
  | creation => 0x40

def debugText : Interest → String
  | fileName => "FileName"
  | dirName => "DirName"
  | lastWrite => "LastWrite"
  | lastAccess => "LastAccess"
  | creation => "Creation"

end Interest

structure Settings where
  latency : Binary64
  bufferRecords : UInt64
  recursive : Bool
  interests : List Interest
  exclude : List String
  deriving DecidableEq, Repr

namespace Settings

def default : Settings := ⟨.one, 128, true, Interest.all, []⟩

/-- Bytes of the smallest record: its head and one unit, padded. -/
def recordBytes : Nat := 16

/-- Size of the notification buffer; a product past 64 bits stays at the largest number. -/
def bufferBytes (s : Settings) : Nat := min (s.bufferRecords.toNat * recordBytes) (UInt64.size - 1)

def mask (s : Settings) : UInt32 := s.interests.foldl (fun m i => m ||| i.bit) 0

def isPositive (x : Binary64) : Bool :=
  match x.shape with
  | .finite below m _ => !below && m ≠ 0
  | _ => false

/-- The sleep before a tick; nothing for a latency that is no span of time. -/
def sleep (s : Settings) : Duration := (Duration.ofSeconds? s.latency).getD ⟨0, 0⟩

def flaw? (s : Settings) : Option Flaw :=
  if !isPositive s.latency then some (.latencyNotPositive s.latency)
  else if (Duration.ofSeconds? s.latency).isNone then some (.latencyTooLong s.latency)
  else if s.bufferRecords = 0 then some .noRecords
  else if Flaw.maxBufferBytes < s.bufferBytes then
    some (.bufferTooLarge s.bufferRecords s.bufferBytes)
  else if s.interests.isEmpty then some .nothingWatched
  else none

def validate (s : Settings) : Except Fault Unit :=
  match s.flaw? with
  | some w => .error (.badSettings w)
  | none => .ok ()

def listText (items : List String) : String := "[" ++ ", ".intercalate items ++ "]"

def debugText (s : Settings) : String :=
  "WatchConfig \x7b latency_secs: " ++ s.latency.debugText ++
    ", buffer_records: " ++ toString s.bufferRecords ++
    ", recursive: " ++ toString s.recursive ++
    ", filters: " ++ listText (s.interests.map Interest.debugText) ++
    ", exclude: " ++ listText (s.exclude.map Quoted.quote) ++ " \x7d"

end Settings
end FolderWatch
