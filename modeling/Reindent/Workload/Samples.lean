/-!
# Sample texts

Three pieces of brace code that exercise the rules one at a time: line and block comments that
hold brackets, split bracket pairs and leading statement ends that merge, a doc comment whose
lines continue with `*`, and a bracket that closes at the end of a line. The workloads run the
indenter over them.
-/

namespace Reindent.Workload

/-- Blocks with a line comment, a block comment holding brackets, and code after it. -/
def blockCode : String :=
  "\n"
    ++ "    \x7b \n"
    ++ "      var a;\n"
    ++ "    \x7d\n"
    ++ "\n"
    ++ "\n"
    ++ "function f() \x7b  // comment\n"
    ++ "    \x7b\n"
    ++ "       var b = 0;\n"
    ++ "    \x7d\n"
    ++ "  var d = \x7bk: 1\x7d\n"
    ++ "    /*\n"
    ++ "     *\n"
    ++ "    \x7b\n"
    ++ "  something\n"
    ++ "     */\n"
    ++ "    // \x7b\n"
    ++ "    // \x7d\n"
    ++ "    /*\n"
    ++ "    \x7d\n"
    ++ "     */\n"
    ++ "\x7d    \n"
    ++ "\x7d\n"
    ++ "var after;\n"
    ++ "/* not supported */  \x7b\n"
    ++ "var here;\n"

/-- A package with several comments on one line and split bracket pairs. -/
def inlineComments : String :=
  "/** this */\n"
    ++ "package multiple_comments_on_one_line \n"
    ++ "\x7b\n"
    ++ "  /**/ import flash.display.MovieClip /**/\n"
    ++ "  public class\n"
    ++ "  \x7b\n"
    ++ "      /**/ private var level:int /**/\n"
    ++ "      private function getLevel():int   \n"
    ++ "      \x7b\n"
    ++ "            var object:Object = \x7b\n"
    ++ "            \x7d;\n"
    ++ "            var array:Array = [\n"
    ++ "            ]\n"
    ++ "            ;\n"
    ++ "            object = \x7ba: 1\x7d;\n"
    ++ "            var text:String = \"\x7b\" + a + \"\x7d\";\n"
    ++ "        return level;\n"
    ++ "      \x7d\n"
    ++ "  \x7d\n"
    ++ "\x7d\n"

/-- Indented fields, a doc comment and brackets that span lines. -/
def fieldCode : String :=
  "\n"
    ++ "/** this */\n"
    ++ "package indented_variables\n"
    ++ "\x7b\n"
    ++ "  /**/ import flash.display.MovieClip /**/\n"
    ++ "  public class\n"
    ++ "  \x7b\n"
    ++ "     public var objects:Object = \x7b\x7d\n"
    ++ "\n"
    ++ "        public var empties:Array = [];\n"
    ++ "\n"
    ++ "      public var oneline:Object = \x7ba: 1, b: 2\x7d\n"
    ++ "      /**\n"
    ++ "      * Comment\n"
    ++ "      */\n"
    ++ "      public var items:Object = \x7b1: 10,\n"
    ++ "      2: 20\x7d;\n"
    ++ "        // Comment\n"
    ++ "      public var levels:Array = [\n"
    ++ "        1,\n"
    ++ "        2];\n"
    ++ "     public var level:int = 0;\n"
    ++ "     public var text:String = \"\x7b\" + level + \"\x7d\";\n"
    ++ "  \x7d\n"
    ++ "\x7d\n"

/-- The three samples, in the order the workloads cycle through them. -/
def samples : List String :=
  [blockCode, inlineComments, fieldCode]

end Reindent.Workload
