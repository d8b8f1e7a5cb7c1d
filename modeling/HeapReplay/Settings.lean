import HeapReplay.Decimal.Layout
import HeapReplay.Text.Numeral
import HeapReplay.Word

namespace HeapReplay

/-- How large a synthetic workload is, how its sizes are rounded, how often the
    allocator reports, and the seed if one was chosen. -/
structure SimulationSettings where
  eventCount : Nat := 1000000
  alignment : UInt64 := 8
  reportFraction : Float := 0.1
  seed : Option UInt64 := none

/-- The limits on the samples taken from a trace, and the shape of its size
    histogram. -/
structure ExtractionSettings where
  maxSize : UInt64 := 2048
  maxInterval : UInt64 := 20000
  lifetimeFloor : UInt64 := 1000000
  histogramBucket : UInt64 := 32
  histogramLimit : UInt64 := 50000
  deriving DecidableEq, Repr

structure Settings where
  simulation : SimulationSettings := {}
  extraction : ExtractionSettings := {}

/-- What is wrong with settings. -/
inductive SettingsError where
  | zeroAlignment
  | fractionOutOfRange (fraction : Float)
  | zeroBucket
  | zeroLimit

/-- A fraction in a message is written positionally, and a whole one without a
    point. -/
def SettingsError.fractionLayout : Decimal.Layout where
  positionalFrom := none
  positionalTo := none
  wholePoint := false
  exponentPlus := ""
  tie := .up

def SettingsError.reason : SettingsError → String
  | .zeroAlignment => "alignment must be positive"
  | .fractionOutOfRange fraction =>
    s!"report threshold fraction " ++ fractionLayout.renderFloat fraction ++ " must be in (0, 1]"
  | .zeroBucket => "histogram bucket must be a positive integer"
  | .zeroLimit => "histogram limit must be a positive integer"

namespace SimulationSettings

/-- A small workload that is the same on every run. -/
def reproducible : SimulationSettings where
  eventCount := 1000
  seed := some 42

/-- How many successful allocations lie between two periodic reports: the chosen
    fraction of the events, rounded down, but never none. -/
def reportThreshold (settings : SimulationSettings) : PosWord :=
  let share := (Binary64.ofNat settings.eventCount * settings.reportFraction).floor.toUInt64
  if h : share = 0 then ⟨1, by decide⟩ else ⟨share, h⟩

/-- Whether a report fraction is above zero and not above one. -/
def isFraction (x : Float) : Bool := x.isFinite && 0 < x && x ≤ 1

/-- Checks that the settings describe a workload that can be run; on success
    gives the alignment as the divisor it is used as. -/
def validate (settings : SimulationSettings) : Except SettingsError PosWord :=
  if h : settings.alignment = 0 then .error .zeroAlignment
  else if isFraction settings.reportFraction then .ok ⟨settings.alignment, h⟩
  else .error (.fractionOutOfRange settings.reportFraction)

end SimulationSettings

/-- Checks the shape of the histogram; on success gives the width of its
    buckets. -/
def ExtractionSettings.validate (settings : ExtractionSettings) : Except SettingsError PosWord :=
  if h : settings.histogramBucket = 0 then .error .zeroBucket
  else if settings.histogramLimit = 0 then .error .zeroLimit
  else .ok ⟨settings.histogramBucket, h⟩

namespace Settings

/-- The value of a variable, or `fallback` when it is not set or cannot be
    read. -/
def override {α : Type} (lookup : String → Option String) (name : String)
    (read : String → Option α) (fallback : α) : α :=
  ((lookup name).bind read).getD fallback

/-- The settings under an environment. A variable that cannot be read leaves its
    setting alone. -/
def ofEnvironment (lookup : String → Option String) : Settings :=
  let base : SimulationSettings := {}
  let word (text : String) := Text.readWord? text.toList
  { simulation :=
      { eventCount := override lookup "TRACEALLOC_EVENT_COUNT"
          (fun text => Text.readBelow? UInt64.size text.toList) base.eventCount
        alignment := override lookup "TRACEALLOC_ALIGNMENT" word base.alignment
        reportFraction :=
          override lookup "TRACEALLOC_REPORT_FRACTION" Decimal.readFloat? base.reportFraction
        seed := override lookup "TRACEALLOC_SEED" (fun text => some <$> word text) base.seed } }

end Settings
end HeapReplay
