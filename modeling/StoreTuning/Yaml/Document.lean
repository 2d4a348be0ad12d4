import StoreTuning.Yaml.Grammar
import StoreTuning.Yaml.Layout
import StoreTuning.Yaml.Unfold

/-!
# YAML: documents

`Yaml.read?` gives the value that a text stands for. The order in which sets are shown is given.
-/

namespace StoreTuning.Yaml

/-- The value that a text of one document stands for. -/
def read? (order : SetOrder) (text : String) : Option Value := do
  (← Document.ofTokens? (← tokens? text)).value? order

end StoreTuning.Yaml
