import CameraControl.Terminal.Commands

/-
  The command line as a program.

  Only reading a file and printing happen here; what is printed is decided by a run. No library of
  the driver is linked in, so that all but simulated cameras are out of reach.
-/

namespace CameraControl.Terminal

/-- The text of a file that can be read. -/
def readFile? (path : String) : IO (Option String) := do
  try
    return some (← IO.FS.readFile path)
  catch _ =>
    return none

/-- The files that a command line needs: at most the one with the settings to be applied. -/
def filesFor (args : List String) : IO Files := do
  match Request.ofArguments args with
  | .ok ⟨_, .apply _ path⟩ =>
    let text ← readFile? path
    return ⟨fun p => if p = path then text else none⟩
  | _ => return ⟨fun _ => none⟩

end CameraControl.Terminal

/-- Runs the command line. -/
def main (args : List String) : IO UInt32 := do
  let report := CameraControl.Terminal.run (← CameraControl.Terminal.filesFor args) .absent args
  IO.print report.printed
  unless report.complaint.isEmpty do
    IO.eprintln report.complaint
  return report.exitCode
