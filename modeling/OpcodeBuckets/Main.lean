import OpcodeBuckets.CommandLine.Run

/-!
# The Program

The outermost layer: arguments and settings in, streams and exit code out.

The environment variable `RUST_LOG` holds the log filter.
-/

/-- Runs the program on its arguments. -/
def main (arguments : List String) : IO UInt32 := do
  let transcript := OpcodeBuckets.CommandLine.start (← IO.getEnv "RUST_LOG") arguments
  IO.print transcript.output
  for line in transcript.logLines ++ transcript.reportLines do
    IO.eprintln line
  return transcript.exitCode
