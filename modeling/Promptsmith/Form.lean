import Promptsmith.Catalog.Feedback
import Promptsmith.Config
import Promptsmith.Context
import Promptsmith.Engine.Descriptor
import Promptsmith.Engine.Rendering

/-!
# Forms

A form describes a kind of record by its fields: which there are, how they are checked together,
and whether a field may be assigned afterwards.
-/
namespace Promptsmith

/-- What assigning a field of a record does. -/
inductive Assignment where
  | forbidden
  | checked
  | unchecked
  deriving DecidableEq, Repr

structure Form where
  name : String
  fields : List String
  check : Fields → Checked Fields
  assignment : Assignment

namespace Form

/-- A record of this form, with defaults filled in. -/
def make (f : Form) (fs : Fields) : Except Failure Fields :=
  (f.check fs).toExcept f.name

/-- Names that every record has beside its fields, to look at only. -/
def readOnlyNames : List String := ["model_extra", "model_fields_set"]

/-- Assigns a field: the value that it then has, and the record. What is kept under a name that
starts with an underscore is no part of the record. -/
def assign (f : Form) (record : Fields) (field : String) (v : Value) :
    Except Failure (Value × Fields) :=
  if field.toList.head? = some '_' then .ok (v, record)
  else
    match f.assignment with
    | .forbidden => .error (.invalid f.name [⟨[field], .frozen⟩])
    | .checked =>
      if field ∈ readOnlyNames then .error (.readOnly f.name field)
      else if field ∈ f.fields then
        (f.make (record.put field v)).map fun record => (record.get field, record)
      else .error (.invalid f.name [⟨[field], .noSuchField⟩])
    | .unchecked =>
      if field ∈ readOnlyNames then .error (.readOnly f.name field)
      else if field ∈ f.fields then .ok (v, record.put field v)
      else .error (.noField f.name field)

def ofRecord {α : Type} (name : String) (fields : List String) (assignment : Assignment)
    (check : Fields → Checked α) (toFields : α → Fields) : Form where
  name := name
  fields := fields
  check := fun fs => toFields <$> check fs
  assignment := assignment

def descriptor : Form :=
  .ofRecord "TemplateDescriptor"
    ["id", "archetype", "body_path", "declared_variables", "description"]
    .forbidden Descriptor.check Descriptor.toFields

def variant : Form :=
  .ofRecord "TemplateVariant"
    ["id", "name", "description", "target_audience", "focus", "body_path", "weight"]
    .checked Variant.check Variant.toFields

def context : Form :=
  .ofRecord "PromptContext" PromptContext.names .forbidden PromptContext.check
    PromptContext.toFields

def intent : Form :=
  .ofRecord "ProjectIntent"
    ["archetype", "features", "complexity", "confidence", "reasoning", "tech_preferences",
      "suggestions"]
    .unchecked Intent.check Intent.toFields

def feedback : Form :=
  .ofRecord "TemplateFeedback" ["variant_id", "rating", "usage", "comments"] .unchecked
    Feedback.check Feedback.toFields

def selection : Form :=
  .ofRecord "SelectionContext"
    ["project_intent", "user_experience", "development_phase", "previous_feedback"] .unchecked
    Selection.check Selection.toFields

def metadata : Form :=
  .ofRecord "RenderMetadata"
    ["archetype", "detected_features", "confidence_score", "template_id", "generated_at"]
    .forbidden Metadata.check Metadata.toFields

def rendering : Form :=
  .ofRecord "RenderResult" ["success", "prompt", "error", "metadata"] .forbidden
    Rendering.check Rendering.toFields

def config : Form :=
  .ofRecord "Config"
    ["templates_dir", "tool_version", "preview_length", "default_experience", "default_phase",
      "base_files"]
    .unchecked Config.check Config.toFields

def all : List Form :=
  [descriptor, variant, context, intent, feedback, selection, metadata, rendering, config]

/-- The form of a given name. -/
def ofName? (name : String) : Option Form :=
  all.find? (·.name == name)

end Form

end Promptsmith
