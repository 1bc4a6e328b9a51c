import Promptsmith.Failure
import Promptsmith.Intent

/-!
# Prompt contexts

The named values that a template is rendered with: required texts, the features and the
technologies, three flags that may be unknown, and whatever else the caller adds, in order.
-/
namespace Promptsmith

/-- Technologies as one line of text or by name. -/
inductive TechStack where
  | line (text : String)
  | names (names : List String)
  deriving DecidableEq, Repr

def TechStack.value : TechStack → Value
  | .line s => .text s
  | .names ss => .texts ss

def TechStack.check (v : Value) : Checked TechStack :=
  (fun stack : String ⊕ List String => stack.elim TechStack.line TechStack.names) <$>
    Check.textOrTexts v

structure PromptContext where
  projectName : String
  projectType : String
  complexityLevel : String
  detectedFeatures : List String
  techStack : TechStack
  toolVersion : String
  currentDate : String
  hasPayment : Option Bool
  hasBilling : Option Bool
  hasSearch : Option Bool
  extras : Fields
  deriving Repr

namespace PromptContext

def names : List String := [
  "project_name", "project_type", "complexity_level", "detected_features", "tech_stack",
  "tool_version", "current_date", "has_payment_feature", "has_billing_feature",
  "has_search_feature"]

/-- The entries that belong to no field. -/
def extrasOf (fs : Fields) : Fields :=
  fs.filter fun e => e.1 ∉ names

def check (fs : Fields) : Checked PromptContext :=
  mk <$> fs.required "project_name" Check.text
    <*> fs.required "project_type" Check.text
    <*> fs.required "complexity_level" Check.text
    <*> fs.optional "detected_features" [] Check.texts
    <*> fs.optional "tech_stack" (.line "") TechStack.check
    <*> fs.required "tool_version" Check.text
    <*> fs.required "current_date" Check.text
    <*> fs.optional "has_payment_feature" none Check.boolOrNull
    <*> fs.optional "has_billing_feature" none Check.boolOrNull
    <*> fs.optional "has_search_feature" none Check.boolOrNull
    <*> .valid (extrasOf fs)

def flag (b : Option Bool) : Value :=
  (b.map Value.bool).getD .null

/-- The values under their names, extras last. -/
def toFields (c : PromptContext) : Fields := [
  ("project_name", .text c.projectName),
  ("project_type", .text c.projectType),
  ("complexity_level", .text c.complexityLevel),
  ("detected_features", .texts c.detectedFeatures),
  ("tech_stack", c.techStack.value),
  ("tool_version", .text c.toolVersion),
  ("current_date", .text c.currentDate),
  ("has_payment_feature", flag c.hasPayment),
  ("has_billing_feature", flag c.hasBilling),
  ("has_search_feature", flag c.hasSearch)] ++ c.extras

end PromptContext

/-- The flag that a feature sets in a context. -/
def flagName (feature : String) : String :=
  "has_" ++ feature ++ "_feature"

def defaultStack : List String := ["Next.js", "TypeScript", "Tailwind CSS", "Prisma"]

/-- The technologies given, or else those of the intent, or else the default ones. -/
def stackFor (i : Intent) (given : Value) : Value :=
  match given with
  | .null => .texts (if i.techPreferences.isEmpty then defaultStack else i.techPreferences)
  | v => v

/-- The values of a context for an intent, before they are checked: each feature sets its flag, and
extras take the place of what is there. -/
def contextFields (i : Intent) (projectName : Value) (toolVersion : String)
    (techStack currentDate : Value) (today : String) (extras : Fields) : Fields :=
  let base : Fields := [
    ("project_name", projectName),
    ("project_type", .text i.archetype),
    ("complexity_level", .text i.complexity.name),
    ("detected_features", .texts i.features),
    ("tech_stack", stackFor i techStack),
    ("tool_version", .text toolVersion),
    ("current_date", if currentDate.truthy then currentDate else .text today)]
  (base.putAll (i.features.map fun f => (flagName f, .bool true))).putAll extras

def buildContext (i : Intent) (projectName : Value) (toolVersion : String)
    (techStack currentDate : Value) (today : String) (extras : Fields) :
    Except Failure PromptContext :=
  (PromptContext.check
    (contextFields i projectName toolVersion techStack currentDate today extras)).toExcept
      "PromptContext"

/-- What a context is always built from, which no option gives. -/
def fixedNames : List String := ["intent", "project_name", "tool_version"]

/-- A context from options by name: two of them are the technologies and the date, the rest are
extras. -/
def contextFromOptions (i : Intent) (projectName : Value) (toolVersion : String) (today : String)
    (options : Fields) : Except Failure PromptContext :=
  match options.find? fun e => e.1 ∈ fixedNames with
  | some (name, _) => .error (.givenTwice name)
  | none =>
    buildContext i projectName toolVersion (options.get "tech_stack") (options.get "current_date")
      today (options.filter fun e => e.1 ∉ ["tech_stack", "current_date"])

end Promptsmith
