import TagSearch.Command.Script

/-!
# The program

Reads a script from the standard input, line by line, and prints what its command lines report. The
exit code is that of the last command line.

* `main` is the program.
-/

namespace TagSearch

/-- The end of a line is no part of it. -/
def withoutLineEnd (line : String) : String := String.ofList (line.toList.takeWhile (· != '\n'))

/-- Follows the script from one line on, for a host and the last exit code. -/
partial def followScript (input output errors : IO.FS.Stream) (h : Host) (code : ExitCode) :
    IO ExitCode := do
  let line ← input.getLine
  if line.isEmpty then return code
  match ScriptLine.ofText? (withoutLineEnd line) with
  | none =>
    errors.putStrLn ("Unknown line: " ++ withoutLineEnd line)
    followScript input output errors h code
  | some request =>
    match h.obey request with
    | .error fault =>
      errors.putStrLn fault.label
      followScript input output errors h code
    | .ok (h, none) => followScript input output errors h code
    | .ok (h, some outcome) =>
      output.putStr outcome.report.out
      errors.putStr outcome.report.err
      followScript input output errors h outcome.code

end TagSearch

open TagSearch

/-- Runs the script on the standard input. -/
def main : IO UInt32 := do
  let code ← followScript (← IO.getStdin) (← IO.getStdout) (← IO.getStderr) Host.blank .success
  return code.toNat.toUInt32
