import ShaderLowering.Sample

/-!
# The command line

Prints the report on the sample method.  The first argument, if any, names a
file with settings.
-/

open ShaderLowering

/-- The bytes of a file, if it can be read. -/
def fileContents (path : String) : IO (Option ByteArray) := do
  try
    return some (← IO.FS.readBinFile path)
  catch _ =>
    return none

/-- Runs the program. -/
def main (args : List String) : IO UInt32 := do
  let settings ← match args with
    | [] => pure (.ok .standard)
    | path :: _ => Settings.ofFile <$> fileContents path
  let outcome := Sample.run settings
  IO.print outcome.output
  IO.eprint outcome.complaint
  return outcome.status
