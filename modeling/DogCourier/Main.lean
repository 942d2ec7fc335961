import DogCourier.Sim.Run

/-! # The simulation program

    Reads the files the command line names (the configuration and the state file, when
    they exist), runs the simulation, prints its output, writes the state file back when
    the run changed it, and exits with the run's exit code. -/

namespace DogCourier

/-- The paths a command line may read. -/
def SimOptions.paths (o : SimOptions) : List String := o.configFile :: o.stateFile.toList

/-- The named files that exist, with their contents. -/
def loadFiles (paths : List String) : IO Files :=
  paths.foldlM (fun (acc : Files) (path : String) => do
    try
      let b ← IO.FS.readBinFile path
      return acc.write path b
    catch _ => return acc) []

end DogCourier

open DogCourier in
/-- Runs the simulation on the command line's files. -/
def main (args : List String) : IO UInt32 := do
  let paths := match SimOptions.parse args with
    | .ok o => o.paths
    | .error _ => []
  let files ← loadFiles paths
  let (out, after) := simulate args files
  IO.print out.stdout
  IO.eprint out.stderr
  for (path, b) in after do
    if files.read? path != some b then IO.FS.writeBinFile path b
  return UInt32.ofNat out.exitCode
