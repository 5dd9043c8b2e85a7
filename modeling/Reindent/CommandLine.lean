import Reindent.Files

/-!
# The command line

Given no path, the program prints its usage text and a line break. Given paths, it reindents
their files in place, in order, and stops at the first path with no file.

After that the program also tests itself on a sample, as the usage text says. That run puts back
every file it touches and prints only its own report, so `runCommandLine` leaves it out: a run
here ends where the reindenting ends.
-/

namespace Reindent

/-- The usage text. -/
def usage : String :=
  " \nIndent after each non-whitespace-line-ending \x7b\n"
    ++ "dedent after each non-whitespace-line-beginning \x7d\n"
    ++ "Also normalizes whitespace to Unix line-ending\n"
    ++ "And strip trailing whitespace.\n"
    ++ "\n"
    ++ "Usage:\n"
    ++ "    python pretty_print_code.py [filename...]\n"
    ++ "    Beware:  files are reformatted in place.\n"
    ++ "\n"
    ++ "Characters to replace are at the top of the program.\n"
    ++ "Running this program also unit tests a sample.\n"

/-- A run of the command line over the paths `args` of the file system `fs`. -/
def runCommandLine {α : Type} [DecidableEq α] (fs : α → Option String) (args : List α) : Batch α :=
  if args.isEmpty then ⟨usage ++ "\n", fs, false⟩ else reindentPaths false fs args

/-- A run of the command line over files given by their contents, each at a path of its own. -/
def commandLine (files : List (Option String)) : Outcome :=
  (runCommandLine (filesAt files) (List.range files.length)).outcome files.length

end Reindent
