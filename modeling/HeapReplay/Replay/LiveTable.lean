import Std.Data.HashMap
import HeapReplay.Replay.Error

namespace HeapReplay.Replay

/-- The handles of the requests whose blocks are allocated, and the largest number
    of them there has been. -/
structure LiveTable (Handle : Type) where
  entries : Std.HashMap RequestId Handle := ∅
  peak : Nat := 0

namespace LiveTable

variable {Handle : Type}

def size (table : LiveTable Handle) : Nat := table.entries.size

def contains (table : LiveTable Handle) (id : RequestId) : Bool := table.entries.contains id

def get? (table : LiveTable Handle) (id : RequestId) : Option Handle := table.entries[id]?

/-- Adds the handle of a request. One that is live already keeps its handle. -/
def insert (table : LiveTable Handle) (id : RequestId) (handle : Handle) :
    Except ReplayError Unit × LiveTable Handle :=
  if table.contains id then (.error (.alreadyLive id), table)
  else
    let entries := table.entries.insert id handle
    (.ok (), { entries, peak := max table.peak entries.size })

/-- Removes a request; the peak stays. -/
def erase (table : LiveTable Handle) (id : RequestId) : LiveTable Handle :=
  { table with entries := table.entries.erase id }

end LiveTable
end HeapReplay.Replay
