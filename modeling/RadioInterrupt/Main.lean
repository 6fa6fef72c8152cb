import RadioInterrupt.Demo

/-!
The command line: runs the demonstration, with its log on the standard error.
-/

def main : IO UInt32 := do
  let run := RadioInterrupt.Demo.run
  let setting ← IO.getEnv "RUST_LOG"
  for complaint in (RadioInterrupt.LogFilter.ofSetting setting).2 do
    IO.eprintln complaint.warning
  for line in run.lines setting do
    IO.eprintln ("[" ++ line)
  IO.print run.stdout
  return run.exitCode.toUInt32
