import Crosscheck.CommandLine.Perform
import Crosscheck.Shell.Process

/-!
# Crosscheck.Main

**The program.** It performs the command that its arguments describe over the files of the working
directory. Success is status zero, an error of the command one, wrong arguments two, and a run that
breaks down a hundred and one.

Some things are left out on purpose:

* Nothing is logged. The options for logging are read and have no effect.
* Help is a single line, and so is the message about wrong arguments.
* Errors in files are of the kinds that the readers of the formats tell apart. They have no wordings of
  their own beyond that.
* No time passes. A deadline that is not over from the beginning is kept, unless a program for a device
  says how long it takes.
* Threads can always be started if they can be named. There is no failure for lack of memory or of
  threads.
* A NaN that comes out of a computation is the canonical one. Which payload a machine gives it depends
  on the machine.
* Programs for devices are scripts of a small shell (`Shell.programs`). What such programs do is a
  parameter of everything else.
-/

namespace Crosscheck

/-- Reads a file; a file that cannot be read counts as missing. -/
def readFile? (path : String) : IO (Option String) := do
  try
    return some (← IO.FS.readFile path)
  catch _ =>
    return none

/-- Reads the standard input to its end. -/
def readStandardInput : IO String := do
  (← IO.getStdin).readToEnd

end Crosscheck

/-- Performs the command of the arguments. -/
def main (args : List String) : IO UInt32 := do
  match Crosscheck.CommandLine.Command.ofArguments args with
  | .help =>
    IO.println "usage: crosscheck list | validate | expand | run | emulate"
    return 0
  | .wrong =>
    IO.eprintln "error: wrong arguments; the commands are list, validate, expand, run and emulate"
    return 2
  | .ok command =>
    let finish? ← command.perform Crosscheck.Shell.programs Crosscheck.readFile?
      Crosscheck.readStandardInput
    match finish? with
    | none =>
      IO.eprintln "error: no worker can be named after an entry with a NUL in it"
      return 101
    | some finish =>
      IO.print finish.output
      match finish.error with
      | some message =>
        IO.eprintln ("error: " ++ message)
        return 1
      | none => return 0
