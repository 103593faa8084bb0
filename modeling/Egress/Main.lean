import Egress.Demonstration

/-!
# The command line

The demonstration with the settings of a file, if one is named, and otherwise with the usual ones.
-/

open Egress

/-- The settings of the file that the arguments name. -/
def settingsFor (arguments : List String) : IO (Except (Fault Float) (Settings Float)) := do
  match arguments with
  | [] => return Demonstration.usualSettings
  | path :: _ => return Settings.ofFile path (← IO.FS.readFile path)

def main (arguments : List String) : IO UInt32 := do
  let (lines, fault) := Demonstration.run (← settingsFor arguments)
  for line in lines do
    IO.println line
  match fault with
  | none => return 0
  | some fault =>
    IO.eprintln fault.message
    return 1
