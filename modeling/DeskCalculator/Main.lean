import DeskCalculator.Launch

/-!
# The command line

The command takes no arguments.  It reads the environment, says what is to be
served and where, and fails with a message if the environment makes no sense.
-/

open DeskCalculator

/-- Reads the environment and reports the launch that it asks for. -/
def main : IO UInt32 := do
  let values ← Launch.names.mapM fun name => do return (name, ← IO.getEnv name)
  match Launch.ofEnvironment fun name => (values.lookup name).join with
  | .ok launch =>
    IO.println launch.text
    return 0
  | .error fault =>
    IO.eprintln fault.message
    return 1
