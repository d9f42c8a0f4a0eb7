import ChangeFeed.Report.Grid
import ChangeFeed.Toml.Writer
import ChangeFeed.Yaml.Reader
import ChangeFeed.Yaml.Writer

/-!
What other libraries do for this one.

YAML is read and written, TOML is written and tables for people are drawn by libraries that come
from elsewhere. A run is given them; `Libraries.usual` are the ones that it is expected to find.
-/

namespace ChangeFeed

/-- The libraries that a run relies on. -/
structure Libraries where
  readYaml : Text → Except Failure Value
  writeYaml : Value → Text
  writeToml : Value → Except Failure Text
  drawGrid : Grid → Except Failure Text

/-- The libraries that are expected. -/
def Libraries.usual : Libraries where
  readYaml t := (Yaml.read t).mapError .yaml
  writeYaml := Yaml.write
  writeToml v := (Toml.write v).mapError .misuse
  drawGrid g := g.render.mapError .markup

end ChangeFeed
