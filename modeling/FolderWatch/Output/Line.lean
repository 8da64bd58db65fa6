import FolderWatch.Event
import FolderWatch.Output.Json
/-! An event as one line of output. -/
namespace FolderWatch

inductive OutputFormat
  | text
  | json
  deriving DecidableEq, Repr

namespace OutputFormat

def ofName? : String → Option OutputFormat
  | "text" => some .text
  | "json" => some .json
  | _ => none

end OutputFormat

def FlagSet.json (s : FlagSet) : String := "[" ++ ",".intercalate (s.names.map Json.quote) ++ "]"

namespace TimedEvent

def cyan (s : String) : String := "\x1b[36m" ++ s ++ "\x1b[39m"
def yellow (s : String) : String := "\x1b[33m" ++ s ++ "\x1b[39m"

def textLine (color : Bool) (e : Event) : String :=
  let path := if color then cyan e.path else e.path
  if e.flags.isEmpty then path
  else path ++ " " ++ (if color then yellow e.flags.text else e.flags.text)

def jsonLine (e : TimedEvent) : String :=
  "\x7b\"path\":" ++ Json.quote e.event.path ++
    ",\"flags\":" ++ e.event.flags.json ++
    ",\"time\":" ++ Json.quote e.time.text ++ "\x7d"

def line (format : OutputFormat) (color : Bool) (e : TimedEvent) : String :=
  match format with
  | .text => textLine color e.event
  | .json => e.jsonLine

end TimedEvent
end FolderWatch
