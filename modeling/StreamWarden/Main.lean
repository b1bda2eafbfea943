import StreamWarden.Console.Answer

/-!
# Command line

Reads request lines from standard input and writes one answer line for each, until the input
ends.
-/

/-- Answers each request line of standard input with one line on standard output. -/
partial def consoleLoop (stdin : IO.FS.Stream) (stdout : IO.FS.Stream) : IO Unit := do
  let line ← stdin.getLine
  if line.isEmpty then return
  let request := line.trimAsciiEnd.toString
  if !request.isEmpty then
    stdout.putStrLn (StreamWarden.Console.answerLine request)
    stdout.flush
  consoleLoop stdin stdout

/-- Runs the console. -/
def main : IO Unit := do
  consoleLoop (← IO.getStdin) (← IO.getStdout)
