import Promptsmith.Record.Field

/-!
# Renderings

The outcome of a generation: a prompt or an error, never both, with what is known about it.
-/
namespace Promptsmith

structure Metadata where
  archetype : String
  detectedFeatures : List String
  confidence : Int
  templateId : String
  generatedAt : String
  deriving DecidableEq, Repr

namespace Metadata

def check (fs : Fields) : Checked Metadata :=
  mk <$> fs.required "archetype" Check.text
    <*> fs.optional "detected_features" [] Check.texts
    <*> fs.optional "confidence_score" 0 (fun v => (Check.int v).andThen (Check.within 0 100))
    <*> fs.required "template_id" Check.text
    <*> fs.required "generated_at" Check.text

def toFields (m : Metadata) : Fields := [
  ("archetype", .text m.archetype),
  ("detected_features", .texts m.detectedFeatures),
  ("confidence_score", .int m.confidence),
  ("template_id", .text m.templateId),
  ("generated_at", .text m.generatedAt)]

end Metadata

inductive Outcome where
  | prompt (text : String)
  | error (message : String)
  deriving DecidableEq, Repr

structure Rendering where
  outcome : Outcome
  metadata : Metadata
  deriving DecidableEq, Repr

namespace Rendering

def prompt? (r : Rendering) : Option String :=
  match r.outcome with
  | .prompt text => some text
  | .error _ => none

def error? (r : Rendering) : Option String :=
  match r.outcome with
  | .prompt _ => none
  | .error message => some message

/-- The outcome that a mark of success, a prompt and an error amount to. -/
def outcomeOf : Bool → Option String → Option String → Checked Outcome
  | true, some prompt, none => .valid (.prompt prompt)
  | false, none, some error => .valid (.error error)
  | true, _, _ => .fail (.unfit "a successful result carries a prompt and no error")
  | false, _, _ => .fail (.unfit "a failed result carries an error and no prompt")

/-- The parts are checked each for itself before they are checked together. -/
def check (fs : Fields) : Checked Rendering :=
  Checked.andThen
    ((fun success prompt error metadata => (success, prompt, error, metadata)) <$>
      fs.required "success" Check.bool
      <*> fs.optional "prompt" none Check.textOrNull
      <*> fs.optional "error" none Check.textOrNull
      <*> fs.required "metadata" (Check.fields Metadata.check))
    fun (success, prompt, error, metadata) =>
      (fun outcome => ⟨outcome, metadata⟩) <$> outcomeOf success prompt error

def textOrNull (s : Option String) : Value :=
  (s.map Value.text).getD .null

def toFields (r : Rendering) : Fields := [
  ("success", .bool r.prompt?.isSome),
  ("prompt", textOrNull r.prompt?),
  ("error", textOrNull r.error?),
  ("metadata", .map r.metadata.toFields)]

end Rendering

end Promptsmith
