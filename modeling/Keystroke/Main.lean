import Keystroke.Program

/-!
The program on the command line: prints the report of its arguments and ends with its status.
-/

open Keystroke

/-- Prints the report of the command line. -/
def main (args : List String) : IO UInt32 := do
  let report := Program.run args
  for line in report.output do
    IO.println line
  for line in report.errors do
    IO.eprintln line
  return report.status.toUInt32
