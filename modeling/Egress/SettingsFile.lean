import Egress.Settings
import Egress.Yaml.Content

/-!
# Settings files

A settings file is a YAML text with a mapping of overrides.  A file that describes nothing, or
something that counts as false, overrides nothing; any other value that is no mapping is refused.
-/

namespace Egress.Settings

/-- The settings that the text of a file gives.  The path only names the file in a fault. -/
def ofFile (path text : String) : Except (Fault Float) (Settings Float) := do
  let overrides ← Yaml.read text
  if overrides.truthy then
    match overrides with
    | .mapping entries => ofEntries entries
    | _ => throw (.notMapping path)
  else ofEntries []

end Egress.Settings
