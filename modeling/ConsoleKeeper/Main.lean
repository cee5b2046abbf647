import ConsoleKeeper.DryRun

/-!
# `ConsoleKeeper.Main`: the dry run on the command line

Prints the lines of the whole dry run.
-/

set_option autoImplicit false

open ConsoleKeeper in
/-- Runs the whole dry run and prints its lines. -/
def main : IO UInt32 := do
  let place : Place := ["tmp", "console-keeper"]
  let world := DryRun.surroundings { nodes := [], workplace := [] } place
  match Settings.build world.files [] (DryRun.given ("/" ++ String.intercalate "/" place)) with
  | .error failure =>
    IO.eprintln failure.message
    return 1
  | .ok settings =>
    match ((DryRun.lines settings).runOn world).1 with
    | .ok lines =>
      for line in lines do
        IO.println line
      return 0
    | .error failure =>
      IO.eprintln failure.message
      return 1
