import TelescopePointing.CommandLine.Program
import TelescopePointing.Decimal.Text

open TelescopePointing

namespace TelescopePointing.Main

def nameOf (place : List String) : String := "/" ++ String.intercalate "/" place

def look (place : List String) : IO (Option DiskNode) := do
  let here ← IO.currentDir
  if ← (here.join (nameOf place)).isDir then return some .folder
  else
    try return some (.file (← IO.FS.readFile (nameOf place)))
    catch _ => return none

/-- Add all that stands on the way along some names. -/
def addWay (d : Disk) : List String → List String → IO Disk
  | _, [] => return d
  | here, "." :: rest => addWay d here rest
  | here, ".." :: rest => addWay d here.dropLast rest
  | here, name :: rest => do
    match ← look (here ++ [name]) with
    | some n => addWay (d.put (here ++ [name]) n) (here ++ [name]) rest
    | none => return d

def addPath (d : Disk) (path : String) : IO Disk := addWay d (d.origin path) (Path.components path)

/-- The part of the system's disk that a command line is about. -/
def snapshot (a : Arguments Float) : IO Disk := do
  let home := Path.components (← IO.currentDir).toString
  let d ← addWay ⟨home, []⟩ [] home
  let d ← match a.config with
    | some path => addPath d path
    | none => pure d
  match a.runConfig d with
  | .ok c =>
    let d ← addPath d c.basePath
    let d ← addPath d (Path.join c.basePath Program.logName)
    addPath d c.observationPath
  | .error _ => return d

/-- Bring the system's disk from one state to another. -/
def store (before after : Disk) : IO Unit := do
  for (place, n) in after.nodes.reverse do
    match n, before.node? place with
    | .folder, none => IO.FS.createDirAll (nameOf place)
    | .file text, some (.file known) =>
      if text != known then IO.FS.writeFile (nameOf place) text
    | .file text, _ => IO.FS.writeFile (nameOf place) text
    | _, _ => pure ()
  for (place, _) in before.files do
    if (after.node? place).isNone then IO.FS.removeFile (nameOf place)

end TelescopePointing.Main

def main (words : List String) : IO UInt32 := do
  let before ← match CommandLine.parse words with
    | .ok a => Main.snapshot a
    | .error _ => pure ⟨[], []⟩
  let ending := Program.run Float words before
  Main.store before ending.disk
  for line in ending.output do IO.println line
  for line in ending.errors do IO.eprintln line
  return ending.exitCode
