import Promptsmith.Record.Field
import Promptsmith.Template.Names
import Promptsmith.Text.Case
import Promptsmith.Text.Blank

/-!
# Descriptors

What the registry knows about the main body of an archetype: where it lies and which names it
refers to.
-/
namespace Promptsmith

structure Descriptor where
  id : String
  archetype : String
  bodyPath : String
  declared : List String
  description : String
  deriving DecidableEq, Repr

namespace Descriptor

def check (fs : Fields) : Checked Descriptor :=
  mk <$> fs.required "id" Check.text
    <*> fs.required "archetype" Check.text
    <*> fs.required "body_path" Check.text
    <*> fs.optional "declared_variables" []
      (fun v => Template.nameSet <$> Check.textSet v)
    <*> fs.optional "description" "" Check.text

def toFields (d : Descriptor) : Fields := [
  ("id", .text d.id),
  ("archetype", .text d.archetype),
  ("body_path", .text d.bodyPath),
  ("declared_variables", .texts d.declared),
  ("description", .text d.description)]

end Descriptor

namespace Archetype

def mainPath (a : Archetype) : String :=
  a.name ++ "/main-prompt.md"

def mainId (a : Archetype) : String :=
  a.name ++ "-main"

def summary : Archetype → String
  | .ecommerce => "Development guidance for online stores: catalog, cart, checkout and payments"
  | .saas => "Development guidance for multi-tenant subscription software"
  | .blog => "Development guidance for content publishing sites"
  | .portfolio => "Development guidance for personal showcase sites"
  | .dashboard => "Development guidance for admin panels and analytics dashboards"

/-- The feature flags that a body of the archetype is expected to look at. -/
def flags : Archetype → List String
  | .ecommerce => ["has_payment_feature"]
  | .saas => ["has_billing_feature"]
  | .blog => ["has_search_feature"]
  | .portfolio => []
  | .dashboard => []

def commonVariables : List String := [
  "project_name", "project_type", "complexity_level", "detected_features", "tech_stack",
  "tool_version", "current_date"]

/-- The names taken for declared when the body cannot tell. -/
def expectedVariables (a : Archetype) : List String :=
  Template.nameSet (commonVariables ++ a.flags)

def describe (a : Archetype) (declared : List String) : Descriptor where
  id := a.mainId
  archetype := a.name
  bodyPath := a.mainPath
  declared
  description := a.summary

/-- The archetype that a hint names, without regard to case and surrounding white space. -/
def ofHint? (hint : String) : Option Archetype :=
  Vocabulary.ofName? (Text.lowered (Text.trimmed hint))

end Archetype

end Promptsmith
