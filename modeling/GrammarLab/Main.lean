/-
The program: the run of its command line done to the console and the file system.
-/
import GrammarLab.CommandLine.Run

open GrammarLab GrammarLab.CommandLine

/-- show a warning, and make the directory that files are reported to be in -/
def notice (event : Event) : IO Unit := do
  if let .written _ directory := event then IO.FS.createDirAll directory
  if event.severity = .warning then IO.eprintln event.message

/-- the status that the program ends with -/
def main (words : List String) : IO UInt32 := do
  let outcome := run "grammarlab" words
  outcome.transcript.events.forM notice
  outcome.transcript.files.forM fun file => IO.FS.writeFile (file.directory ++ "/" ++ file.name) file.contents
  IO.print outcome.transcript.printed
  unless outcome.complaint.isEmpty do
    IO.eprintln outcome.complaint
  match outcome.ending with
  | .ok status => return status.toUInt32
  | .error failure =>
    IO.eprintln failure.message
    return 1
