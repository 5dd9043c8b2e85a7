/-!
# Generated sources

Two families of texts to run the indenter on at any size.

* `nestedBlock depth` nests `depth` classes. Level `d` is indented by `2 * d` spaces and opens
  with a class line that ends in `{` and a line comment, a one-line block comment, and a
  bracket list split over three lines and closed by a lone `;`. At the bottom sits a leaf: one
  line of code and a doc comment. Then one `}` closes each level, innermost first.
  `nestedBlocks n depth` is `n` copies, one line apart.
* `messySource copies` is a twelve-line unit of untidy code repeated `copies` times: trailing
  blanks, a tab, an empty and a blank line, split bracket pairs, and a `\r` before every line
  break, so that each line break is `\r\n` and the text ends in a lone `\r`.
-/

namespace Reindent.Workload

/-- Two spaces for each level. -/
def pad (d : Nat) : String :=
  String.join (List.replicate d "  ")

/-- The six lines that open level `d` of a nested block. -/
def levelLines (d : Nat) : List String :=
  let p := pad d
  let n := toString d
  [p ++ "class C" ++ n ++ " \x7b  // open " ++ n,
    p ++ "/* note " ++ n ++ " */",
    p ++ "var arr" ++ n ++ " = [",
    p ++ "    " ++ n ++ ",",
    p ++ "]",
    p ++ ";"]

/-- The leaf at the bottom of a nested block of the given depth. -/
def leafLines (depth : Nat) : List String :=
  let p := pad depth
  [p ++ "var leaf = \x7ba: 1, b: 2\x7d;", p ++ "/**", p ++ " * doc", p ++ " */"]

/-- The lines that close the levels of a nested block, innermost first. -/
def closingLines (depth : Nat) : List String :=
  (List.range depth).reverse.map fun d => pad d ++ "\x7d"

/-- One nested block of the given depth. -/
def nestedBlock (depth : Nat) : String :=
  "\n".intercalate ((List.range depth).flatMap levelLines ++ leafLines depth ++ closingLines depth)

/-- `n` nested blocks of the given depth, one line apart. -/
def nestedBlocks (n depth : Nat) : String :=
  "\n".intercalate (List.replicate n (nestedBlock depth))

/-- The twelve lines of one unit of untidy code, each ending in `\r`. -/
def messyLines : List String :=
  ["package demo   \r", "\x7b\r", "   var x = \x7b\r", "   \x7d\r", "   ;\r", "   \r",
    "\tvar y = 1;  \r", "   // trailing   \r", "   var z = [\r", "   ]\r", "\x7d\r", "\r"]

/-- `copies` units of untidy code, one line apart. -/
def messySource (copies : Nat) : String :=
  "\n".intercalate (List.replicate copies messyLines).flatten

end Reindent.Workload
