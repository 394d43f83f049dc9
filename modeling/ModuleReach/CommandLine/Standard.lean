import ModuleReach.CommandLine.Parser
import ModuleReach.CommandLine.Toolkit
import ModuleReach.Layout.Panel
import ModuleReach.Layout.Table
import ModuleReach.Markup.Basic
import ModuleReach.Yaml.Value

/-!
# The usual toolkit

## Main definitions

* `Console.terminal` — the console that draws lines with characters and leaves out what only a colour can show.
* `Toolkit.standard` — the toolkit of the program.
-/

namespace ModuleReach.CommandLine

/-- The console that draws lines with characters, and of which markup changes nothing but what is left out. -/
def Console.terminal : Console where
  shown := Markup.plain
  table t := t.render pageWidth
  panel := Layout.panel pageWidth

/-- The toolkit of the program. -/
def Toolkit.standard : Toolkit where
  arguments := Given.read
  document := Yaml.read
  console := Console.terminal

end ModuleReach.CommandLine
