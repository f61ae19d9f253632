import MarkupIslands.Island.Target
import MarkupIslands.Jsx.OfMarkup
import MarkupIslands.Text.Search
import MarkupIslands.Ui.Import

/-!
# Dependencies

What resolved islands make a component import and a project depend on. Written markup that holds the
start of the runtime component needs the script runtime.
-/

namespace MarkupIslands.Island

open MarkupIslands.Ui

/-- The start of the runtime component in written markup. -/
def scriptMarker : String := "<" ++ Jsx.scriptComponent

/-- Whether written markup holds a relocated script. -/
def needsScriptRuntime (content : String) : Bool := Text.contains content scriptMarker

def scriptRuntimeImport (runtime : ScriptRuntime) : ImportDefinition where
  source := .package
  path := runtime.package
  version := some runtime.version
  details := some { importAlias := some runtime.importAlias }

/-- What a component imports once one of its islands needs the script runtime. -/
def componentImports (target : Target) (options : Options) : Imports :=
  match target with
  | .react | .next =>
    .singleton Jsx.scriptComponent (scriptRuntimeImport options.scriptRuntime)
  | .html => .empty

/-- The packages a project depends on, whether or not it had islands. -/
def projectPackages (target : Target) (options : Options) : KeyMap String :=
  match target with
  | .react => .singleton options.scriptRuntime.package options.scriptRuntime.projectVersion
  | .html | .next => .empty

end MarkupIslands.Island
