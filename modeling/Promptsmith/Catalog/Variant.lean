import Promptsmith.Record.Field

/-!
# Variants

A variant is an alternative body for an archetype, written for an audience and with a focus. Its
weight lies between 0.1 and 2.0. Feedback moves the weight by a tenth, keeps it between the bounds
and rounds it to the nearest tenth.
-/
namespace Promptsmith

structure Variant where
  id : String
  name : String
  description : String
  audience : Experience
  focus : Focus
  bodyPath : String
  weight : Float
  deriving DecidableEq, Repr

/-- A weight as its number of tenths. -/
def tenths (k : Nat) : Float :=
  Float.ofScientific k true 1

namespace Variant

def minWeight : Float := 0.1
def maxWeight : Float := 2.0
def weightStep : Float := 0.1

def checkWeight (v : Value) : Checked Float :=
  (Check.float v).andThen (Check.floatWithin minWeight maxWeight)

def check (fs : Fields) : Checked Variant :=
  mk <$> fs.required "id" Check.text
    <*> fs.required "name" Check.text
    <*> fs.optional "description" "" Check.text
    <*> fs.optional "target_audience" .intermediate (Check.word Experience)
    <*> fs.optional "focus" .implementation (Check.word Focus)
    <*> fs.required "body_path" Check.text
    <*> fs.optional "weight" 1.0 checkWeight

def toFields (v : Variant) : Fields := [
  ("id", .text v.id),
  ("name", .text v.name),
  ("description", .text v.description),
  ("target_audience", .label (.experience v.audience)),
  ("focus", .label (.focus v.focus)),
  ("body_path", .text v.bodyPath),
  ("weight", .float v.weight)]

/-- The variant for an archetype that has none. -/
def default (archetype : String) : Variant where
  id := archetype ++ "-default"
  name := archetype ++ " default template"
  description := "General project guidance"
  audience := .intermediate
  focus := .implementation
  bodyPath := archetype ++ "/main-prompt.md"
  weight := 1.0

end Variant

/-- What feedback does to a weight. -/
inductive Nudge where
  | raise
  | lower
  deriving DecidableEq, Repr

def Nudge.delta : Nudge → Float
  | .raise => Variant.weightStep
  | .lower => -Variant.weightStep

/-- A weight kept between the bounds. What is no number is not less than the upper one. -/
def clampWeight (x : Float) : Float :=
  let capped := if x < Variant.maxWeight then x else Variant.maxWeight
  if Variant.minWeight < capped then capped else Variant.minWeight

/-- The tenth nearest to a float, half to even. A float that is not finite stays as it is. -/
def roundToTenth (x : Float) : Float :=
  match Decimal.Binary.ofFloat x with
  | .finite negative m e =>
    let magnitude := tenths ((Decimal.Ratio.ofBinary m e).round 10)
    if negative then -magnitude else magnitude
  | _ => x

def Nudge.apply (n : Nudge) (weight : Float) : Float :=
  roundToTenth (clampWeight (weight + n.delta))

end Promptsmith
