import Reindent.CommandLine

/-!
# The program

Given no file, the program prints its usage text. Given files, it reindents each in place, in
order: the file is read as a text file, so its line breaks become `\n`, and overwritten with its
reindented text. It stops with an error at the first file that cannot be read.
-/

open Reindent

/-- Reindents the files in place, in order, failing at the first that cannot be read. -/
def reindentAll : List String → IO Unit
  | [] => pure ()
  | path :: rest => do
    let text ← IO.FS.readFile path
    IO.FS.writeFile path (reindentText (readText text))
    reindentAll rest

/-- Prints the usage text, or reindents the files named on the command line. -/
def main (args : List String) : IO UInt32 := do
  if args.isEmpty then
    IO.println usage
    return 0
  try
    reindentAll args
    return 0
  catch e =>
    IO.eprintln (toString e)
    return 1
