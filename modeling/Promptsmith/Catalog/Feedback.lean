import Promptsmith.Catalog.Variant
import Promptsmith.Intent

/-!
# Feedback and selections

A rating of a generated prompt, and everything that the choice of a variant may look at.
-/
namespace Promptsmith

structure Feedback where
  variantId : String
  rating : Int
  usage : Usage
  comments : String
  deriving DecidableEq, Repr

namespace Feedback

def check (fs : Fields) : Checked Feedback :=
  mk <$> fs.required "variant_id" Check.text
    <*> fs.required "rating" (fun v => (Check.int v).andThen (Check.within 1 5))
    <*> fs.required "usage" (Check.word Usage)
    <*> fs.optional "comments" "" Check.text

def toFields (f : Feedback) : Fields := [
  ("variant_id", .text f.variantId),
  ("rating", .int f.rating),
  ("usage", .label (.usage f.usage)),
  ("comments", .text f.comments)]

/-- Helpful and rated high raises a weight; unhelpful or rated low lowers it. -/
def nudge? (f : Feedback) : Option Nudge :=
  if f.usage = .helpful ∧ 4 ≤ f.rating then some .raise
  else if f.usage = .notHelpful ∨ f.rating ≤ 2 then some .lower
  else none

end Feedback

structure Selection where
  intent : Intent
  experience : Experience
  phase : Phase
  feedback : List Feedback
  deriving DecidableEq, Repr

namespace Selection

/-- A selection for an intent and feedback that have been checked. -/
def checkFor (intent : Checked Intent) (feedback : Checked (List Feedback)) (fs : Fields) :
    Checked Selection :=
  mk <$> intent
    <*> fs.optional "user_experience" .intermediate (Check.word Experience)
    <*> fs.optional "development_phase" .development (Check.word Phase)
    <*> feedback

def check (fs : Fields) : Checked Selection :=
  checkFor (fs.required "project_intent" (Check.fields Intent.check))
    (fs.optional "previous_feedback" [] (Check.listOf (Check.fields Feedback.check))) fs

def toFields (s : Selection) : Fields := [
  ("project_intent", .map s.intent.toFields),
  ("user_experience", .label (.experience s.experience)),
  ("development_phase", .label (.phase s.phase)),
  ("previous_feedback", .list (s.feedback.map fun f => .map f.toFields))]

end Selection

end Promptsmith
