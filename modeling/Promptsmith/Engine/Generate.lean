import Promptsmith.Analysis.Basic
import Promptsmith.Context
import Promptsmith.Engine.Registry
import Promptsmith.Engine.Rendering
import Promptsmith.Score

/-!
# Generation

A hint names an archetype; with a selection its feedback is learnt and a variant chosen, otherwise
the main body is used. The body is read, given the base guidance if it asks for it, rendered and
scored. What the store and the templates do wrong is an answer, not a failure, as long as the
console takes what is told of it.
-/
namespace Promptsmith.Engine

def failed (archetype message templateId : String) : Act Rendering := do
  return {
    outcome := .error message
    metadata := {
      archetype
      detectedFeatures := []
      confidence := 0
      templateId
      generatedAt := (← Act.engine).settings.clock.now } }

def unknownMessage (hint : String) : String :=
  "no template found for project type: " ++ hint

def failureNote (archetype message : String) : String :=
  "[red]Prompt generation failed for " ++ archetype ++ ": " ++ message ++ "[/red]"

def successNote (archetype templateId : String) (size : Nat) : String :=
  "[cyan]Generated prompt for[/cyan] [bold]" ++ archetype ++ "[/bold] using " ++ templateId ++
    " (" ++ toString size ++ " chars)"

def missingNote (variantPath mainPath : String) : String :=
  "[yellow]Variant body " ++ variantPath ++ " missing, using " ++ mainPath ++ "[/yellow]"

def skippedNote (path message : String) : String :=
  "[yellow]Skipping base guidance " ++ path ++ ": " ++ message ++ "[/yellow]"

/-- Learns one item of feedback, and notes it if it is ignored. -/
def learnOne [Console] (f : Feedback) : Act Unit := do
  let e ← Act.engine
  Act.setEngine { e with catalog := e.catalog.learnOne f }
  if e.catalog.ignores f then Act.note (Catalog.ignoredNote f.variantId)

/-- Learns feedback item by item. -/
def learn [Console] (feedback : List Feedback) : Act Unit :=
  feedback.forM learnOne

/-- The id and the path of the body for a request. The chosen variant gives way to the main body if
its own is not there. -/
def resolveBody [Console] (d : Descriptor) : Option Selection → Act (String × String)
  | none => return (d.id, d.bodyPath)
  | some s => do
    learn s.feedback
    let e ← Act.engine
    let v := e.catalog.select { s with intent := { s.intent with archetype := d.archetype } }
    if ← Act.has v.bodyPath then return (v.id, v.bodyPath)
    else
      Act.note (missingNote v.bodyPath d.bodyPath)
      return (d.id, d.bodyPath)

def baseSeparator : String := "\n\n---\n\n"

/-- The base files that are there and can be read, in order. -/
def baseSections [Console] : List String → Act (List String)
  | [] => return []
  | path :: paths => do
    if ← Act.has path then
      match ← Act.readBody path with
      | .ok body => return body :: (← baseSections paths)
      | .error message =>
        Act.note (skippedNote path message)
        baseSections paths
    else baseSections paths

def baseContent [Console] : Act String := do
  return String.intercalate baseSeparator (← baseSections (← Act.engine).settings.baseFiles)

/-- The values with the base guidance added, if the body asks for it and they do not have it. -/
def withBase [Console] (body : String) (values : Fields) : Act Fields := do
  if "base_content" ∈ Template.scanNames body ∧ !values.has "base_content" then
    return values.put "base_content" (.text (← baseContent))
  else return values

/-- The features of a result: those of a sequence, none of any other value. -/
def featureItems (values : Fields) : List Value :=
  let v := values.get "detected_features"
  if v.truthy then v.items?.getD [] else []

/-- The score of some values, of which some are written out for it. -/
def scored [Host] (values : Fields) : Except Failure Nat := do
  Host.write (Score.written values)
  Score.confidence values

/-- Scores a rendered prompt and describes it. -/
def succeeded [Console] [Host] (d : Descriptor) (templateId prompt : String) (values : Fields) :
    Act Rendering := do
  Act.note (successNote d.archetype templateId prompt.length)
  let confidence ← Act.ofExcept (scored values)
  let features ← Act.ofExcept
    (((Check.texts (.list (featureItems values))).under "detected_features").toExcept
      "RenderMetadata")
  return {
    outcome := .prompt prompt
    metadata := {
      archetype := d.archetype
      detectedFeatures := features
      confidence
      templateId
      generatedAt := (← Act.engine).settings.clock.now } }

/-- Renders the chosen body against the values. -/
def renderBody [Console] [Host] (d : Descriptor) (templateId bodyPath : String) (values : Fields) :
    Act Rendering := do
  match ← Act.readBody bodyPath with
  | .error message =>
    Act.note (failureNote d.archetype message)
    failed d.archetype message "error"
  | .ok body =>
    let values ← withBase body values
    match Template.render body values with
    | .error e =>
      Act.note (failureNote d.archetype e.message)
      failed d.archetype e.message "error"
    | .ok prompt =>
      Act.ofExcept (Host.write (Template.shown body values))
      succeeded d templateId prompt values

def generate [Console] [Host] (hint : String) (values : Fields)
    (selection : Option Selection) : Act Rendering := do
  match ← Registry.lookup hint with
  | none => failed (Text.lowered (Text.trimmed hint)) (unknownMessage hint) "none"
  | some (_, d) =>
    let (templateId, bodyPath) ← resolveBody d selection
    renderBody d templateId bodyPath values

/-! ### From a description -/

def projectNameFor (given : Value) (i : Intent) : Value :=
  if given.truthy then given else .text ("my-" ++ i.archetype ++ "-app")

/-- Analyses a description and generates a prompt for it. The options are those that were given. -/
def generateFromDescription [Console] [Host] (description : String) (options : Fields)
    (feedback : List Feedback) : Act Rendering := do
  let settings := (← Act.engine).settings
  let tech := options.get "tech_stack"
  let i ← Act.ofExcept
    (Analysis.analyzeValues description (options.get "detected_features") tech)
  let context ← Act.ofExcept
    (buildContext i (projectNameFor (options.get "project_name") i) settings.toolVersion tech .null
      settings.clock.today [])
  let selection ← Act.ofExcept
    ((Selection.checkFor (.valid i) (.valid feedback) options).toExcept "SelectionContext")
  generate i.archetype context.toFields (some selection)

/-! ### Previews -/

/-- The first `n` characters; for a negative `n` all but the last `-n`. -/
def cutTo (n : Int) (s : List Char) : List Char :=
  if 0 ≤ n then s.take n.toNat else s.take (s.length - (-n).toNat)

def previewOf (n : Int) (body : String) : String :=
  if (body.length : Int) ≤ n then body
  else String.ofList (cutTo n body.toList) ++ "..."

/-- The start of an archetype's main body as it is stored. -/
def preview [Console] (hint : String) : Act (Option String) := do
  match ← Registry.lookup hint with
  | none => return none
  | some (_, d) =>
    match ← Act.readBody d.bodyPath with
    | .ok body => return some (previewOf (← Act.engine).settings.previewLength body)
    | .error _ => return none

/-! ### The rest -/

/-- The body at a path. -/
def readTemplate (path : String) : Act String := do
  match ← Act.readBody path with
  | .ok body => return body
  | .error message => throw (.unreadable path message)

/-- Registers a variant in the engine's catalog. -/
def register (archetype : String) (v : Variant) : Act Unit := do
  let e ← Act.engine
  Act.setEngine { e with catalog := e.catalog.register archetype v }

/-- Registers a variant of the engine's catalog once more. -/
def share (archetype : String) (i : Nat) : Act Unit := do
  let e ← Act.engine
  Act.setEngine { e with catalog := e.catalog.share archetype i }

/-- Gives the variants with an id a weight. -/
def setWeight (id : String) (weight : Value) : Act Unit := do
  let e ← Act.engine
  Act.setEngine { e with catalog := ← Act.ofExcept (e.catalog.setWeight id weight) }

/-- Forgets what was learnt. -/
def resetCatalog : Act Unit := do
  Act.setEngine { ← Act.engine with catalog := Catalog.bundled }

/-- Changes the store under the engine. -/
def changeStore (f : Store → Store) : Act Unit := do
  let e ← Act.engine
  Act.setEngine { e with store := f e.store }

/-- Forgets the descriptors and what was learnt. -/
def reset : Act Unit := do
  Registry.reset
  resetCatalog

end Promptsmith.Engine
