import HeapReplay.Replay.Error

namespace HeapReplay.Replay

/-- The time of a replay. -/
structure Clock where
  now : UInt64 := 0
  deriving DecidableEq, Repr

/-- Moves the clock to a time that is not in its past. -/
def Clock.advance (clock : Clock) (target : UInt64) : Except ReplayError Clock :=
  if target < clock.now then .error (.clockBack clock.now target) else .ok ⟨target⟩

end HeapReplay.Replay
