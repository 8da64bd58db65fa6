import FolderWatch.Event
/-! Where events go: a function is called with every batch, a channel carries single events as
long as somebody listens. -/
namespace FolderWatch

structure Consumer where
  isChannel : Bool
  listening : Bool
  arrived : List Event
  deriving DecidableEq, Repr

namespace Consumer

def call : Consumer := ⟨false, true, []⟩
def channel : Consumer := ⟨true, true, []⟩

/-- Nobody reads the channel any more; a function cannot stop listening. -/
def hangUp (c : Consumer) : Consumer := if c.isChannel then { c with listening := false } else c

/-- What nobody listens to is lost without complaint. -/
def deliver (c : Consumer) (batch : List Event) : Consumer :=
  if c.listening then { c with arrived := c.arrived ++ batch } else c

def drain (c : Consumer) : Option (List Event) × Consumer :=
  if c.listening then (some c.arrived, { c with arrived := [] }) else (none, c)

end Consumer
end FolderWatch
