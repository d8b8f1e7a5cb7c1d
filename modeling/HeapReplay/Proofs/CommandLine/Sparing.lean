import HeapReplay.Proofs.CommandLine.Running

namespace HeapReplay.CommandLine

open Workload

variable {World : Type}

/-- What a host promises about a relation between worlds, such as that no file has been created
    or emptied and nothing was printed: it holds between a world and a later one when in between
    files and the input have only been read, a seed drawn, the time looked at, text written to
    the log, and files could not be created. -/
structure Host.Sparing (host : Host (StateM World)) (Spared : World → World → Prop) : Prop where
  refl : ∀ world, Spared world world
  trans : ∀ {before between after}, Spared before between → Spared between after →
    Spared before after
  readInput : ∀ world, Spared world (host.readInput world).2
  readFile : ∀ path world, Spared world (host.readFile path world).2
  createFile : ∀ path world error, (host.createFile path world).1 = .error error →
    Spared world (host.createFile path world).2
  writeLog : ∀ text world, Spared world (host.writeLog text world).2
  drawSeed : ∀ world, Spared world (host.drawSeed world).2
  now : ∀ world, Spared world (host.now world).2

/-- What a host promises about a path: when a file can be created there, it can be written to,
    also behind a note in the log. -/
def Host.Writable (host : Host (StateM World)) (world : World) (path : String) : Prop :=
  (host.createFile path world).1 = .ok () →
    ∀ note content, (host.overwriteFile path content
      (host.note note (host.createFile path world).2).2).1 = .ok ()

namespace Host.Sparing

variable {host : Host (StateM World)} {Spared : World → World → Prop}

theorem note (hsparing : host.Sparing Spared) (note : Note) (world : World) :
    Spared world (host.note note world).2 :=
  hsparing.trans (hsparing.now world) (hsparing.writeLog _ _)

theorem readTrace (hsparing : host.Sparing Spared) (path : Option String) (world : World) :
    Spared world (host.readTrace path world).2 := by
  cases path with
  | none => exact hsparing.readInput world
  | some path => exact hsparing.readFile path world

theorem loadParameters (hsparing : host.Sparing Spared) (path : Option String) (world : World) :
    Spared world (runOn world (loadParameters host path)).2 := by
  cases path with
  | none => exact hsparing.refl world
  | some path =>
    rw [runOn_loadParameters]
    exact hsparing.readFile path world

theorem loadRecords (hsparing : host.Sparing Spared) (path : Option String) (world : World) :
    Spared world (runOn world (loadRecords host path)).2 := by
  have hread := hsparing.readTrace path world
  rw [runOn_loadRecords]
  cases recordsIn path (host.readTrace path world).1 with
  | error complaint => exact hread
  | ok records => exact hsparing.trans hread (hsparing.note _ _)

end Host.Sparing
end HeapReplay.CommandLine
