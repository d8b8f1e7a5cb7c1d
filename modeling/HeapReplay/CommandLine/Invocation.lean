import HeapReplay.CommandLine.Argument
import HeapReplay.Log

namespace HeapReplay.CommandLine

/-- The allocator that a simulation replays against. -/
inductive AllocatorChoice where
  | nop
  | firstFit
  deriving DecidableEq, Repr

def AllocatorChoice.ofName? : String → Option AllocatorChoice
  | "nop" => some .nop
  | "first-fit" => some .firstFit
  | _ => none

/-- The options of a simulation; what is missing comes from the settings. -/
structure SimulateOptions where
  events : Option Nat := none
  alignment : Option UInt64 := none
  reportFraction : Option Float := none
  seed : Option UInt64 := none
  params : Option String := none
  allocator : AllocatorChoice := .nop
  heapSize : UInt64 := 0x40000000

/-- The options of an extraction; without a trace the standard input is read, and
    without an output the samples are printed. -/
structure ExtractOptions where
  trace : Option String := none
  maxSize : Option UInt64 := none
  maxInterval : Option UInt64 := none
  lifetimeFloor : Option UInt64 := none
  output : Option String := none
  deriving DecidableEq, Repr

structure HistogramOptions where
  bucket : Option UInt64 := none
  limit : Option UInt64 := none
  trace : Option String := none
  deriving DecidableEq, Repr

inductive Command where
  | simulate (options : SimulateOptions)
  | extract (options : ExtractOptions)
  | histogram (options : HistogramOptions)
  | params

/-- A command with the options of the log. -/
structure Invocation where
  logLevel : LogLevel := .info
  logDirectory : Option String := none
  command : Command

/-- Reads a path, which is not empty. -/
def readPath? (text : String) : Option String := if text.isEmpty then none else some text

def readWord? (text : String) : Option UInt64 := Text.readWord? text.toList

def readCount? (text : String) : Option Nat := Text.readBelow? UInt64.size text.toList

namespace SimulateOptions

def flags : List Flag :=
  [⟨"events", some 'e'⟩, ⟨"alignment", some 'a'⟩, ⟨"report-fraction", none⟩, ⟨"seed", some 's'⟩,
    ⟨"params", some 'p'⟩, ⟨"allocator", none⟩, ⟨"heap-size", none⟩]

def ofAssignments? (given : Assignments) : Option SimulateOptions := do
  let base : SimulateOptions := {}
  let allocator ← given.read? "allocator" AllocatorChoice.ofName?
  let heapSize ← given.read? "heap-size" readWord?
  some
    { events := ← given.read? "events" readCount?
      alignment := ← given.read? "alignment" readWord?
      reportFraction := ← given.read? "report-fraction" Decimal.readFloat?
      seed := ← given.read? "seed" readWord?
      params := ← given.read? "params" readPath?
      allocator := allocator.getD base.allocator
      heapSize := heapSize.getD base.heapSize }

end SimulateOptions

namespace ExtractOptions

def flags : List Flag :=
  [⟨"trace", some 't'⟩, ⟨"max-size", none⟩, ⟨"max-interval", none⟩, ⟨"lifetime-floor", none⟩,
    ⟨"output", some 'o'⟩]

def ofAssignments? (given : Assignments) : Option ExtractOptions := do
  some
    { trace := ← given.read? "trace" readPath?
      maxSize := ← given.read? "max-size" readWord?
      maxInterval := ← given.read? "max-interval" readWord?
      lifetimeFloor := ← given.read? "lifetime-floor" readWord?
      output := ← given.read? "output" readPath? }

end ExtractOptions

namespace HistogramOptions

def flags : List Flag := [⟨"bucket", some 'b'⟩, ⟨"limit", some 'l'⟩, ⟨"trace", some 't'⟩]

def ofAssignments? (given : Assignments) : Option HistogramOptions := do
  some
    { bucket := ← given.read? "bucket" readWord?
      limit := ← given.read? "limit" readWord?
      trace := ← given.read? "trace" readPath? }

end HistogramOptions

/-- The options of a command, and how it is made from them. -/
def Command.ofName? : String → Option (List Flag × (Assignments → Option Command))
  | "simulate" =>
    some (SimulateOptions.flags, fun given => .simulate <$> SimulateOptions.ofAssignments? given)
  | "extract" =>
    some (ExtractOptions.flags, fun given => .extract <$> ExtractOptions.ofAssignments? given)
  | "histogram" =>
    some (HistogramOptions.flags, fun given => .histogram <$> HistogramOptions.ofAssignments? given)
  | "params" => some ([], fun _ => some .params)
  | _ => none

namespace Invocation

/-- The options of the log. They stand before the name of the command or among
    its own options. -/
def logFlags : List Flag := [⟨"log-level", none⟩, ⟨"log-dir", none⟩]

/-- The level and the directory given among options. -/
def readLog? (given : Assignments) : Option (Option LogLevel × Option String) := do
  let level ← given.read? "log-level" (LogLevel.ofName? false)
  let directory ← given.read? "log-dir" readPath?
  some (level, directory)

/-- Reads the arguments of the program; no result when they are not as they should
    be. An option of the log that is given in both places counts where it was
    given last. -/
def ofArguments? (arguments : List String) : Option Invocation := do
  let (before, words) ← readAssignments logFlags arguments
  match words with
  | [] => none
  | name :: words =>
    let (flags, make) ← Command.ofName? name
    let (own, rest) ← readAssignments (flags ++ logFlags) words
    if !rest.isEmpty || !before.areDistinct || !own.areDistinct then none
    let (levelBefore, directoryBefore) ← readLog? before
    let (level, directory) ← readLog? own
    let command ← make own
    some
      { logLevel := (level <|> levelBefore).getD .info
        logDirectory := directory <|> directoryBefore
        command }

end Invocation
end HeapReplay.CommandLine
