import RankedBars.CommandLine

/-!
# The program

The outer layer: it takes a picture of the files that a run can touch, runs, and
carries over to the disk what the run has changed. All decisions are made in
`CommandLine`.
-/

namespace RankedBars

open CommandLine (Invocation)

/-- The paths that a run reads or writes. -/
def CommandLine.Invocation.paths : Invocation → List String
  | .command (.render r) => [r.input, r.outDir, FileTree.join r.outDir (r.container ++ ".svg")]
      ++ r.config.toList ++ r.emitConfig.toList
  | .command (.classify r) => r.config.toList
  | _ => []

/-- All places on the way to a location, and the location itself. -/
def placesTo (location : Location) : List Location :=
  (List.range location.length).map fun n => location.take (n + 1)

/-- What is on the disk at a location. -/
def lookAt (location : Location) : IO (Option Node) := do
  let path := (← IO.currentDir) / ("/" ++ FileTree.pathTo location)
  if ← path.isDir then return some .directory
  if ← path.pathExists then return some (.file (← IO.FS.readBinFile path))
  return none

/-- The tree of files as far as some paths lead through it. -/
def pictureOf (paths : List String) : IO FileTree := do
  let here := FileTree.names (toString (← IO.currentDir))
  let start : FileTree := { nodes := [], workingDirectory := here }
  let locations := paths.map fun path => start.origin path ++ FileTree.names path
  let mut tree := start
  for location in (locations.flatMap placesTo).eraseDups do
    if let some node ← lookAt location then tree := tree.put location node
  return tree

/-- Writes a node to the disk. -/
def write (location : Location) (node : Node) : IO Unit := do
  let path := (← IO.currentDir) / ("/" ++ FileTree.pathTo location)
  match node with
  | .directory => IO.FS.createDirAll path
  | .file content => IO.FS.writeBinFile path content

/-- Carries over to the disk what is in one tree and not in another. -/
def carryOver (before after : FileTree) : IO Unit := do
  for (location, node) in after.nodes do
    match before.node? location, node with
    | some .directory, .directory => pure ()
    | some (.file old), .file new => unless old.data = new.data do write location node
    | _, _ => write location node

end RankedBars

open RankedBars in
/-- Runs the program with its arguments. -/
def main (args : List String) : IO UInt32 := do
  let before ← pictureOf (CommandLine.invocation args).paths
  let outcome := CommandLine.run before args
  carryOver before outcome.files
  IO.print outcome.output
  IO.eprint outcome.errors
  return UInt32.ofNat outcome.exitCode
