import Promptsmith.Record.Field

/-!
# Project intents

What a user appears to want to build.
-/
namespace Promptsmith

structure Intent where
  archetype : String
  features : List String
  complexity : Complexity
  confidence : Int
  reasoning : String
  techPreferences : List String
  suggestions : List String
  deriving DecidableEq, Repr

namespace Intent

def check (fs : Fields) : Checked Intent :=
  mk <$> fs.required "archetype" Check.text
    <*> fs.optional "features" [] Check.texts
    <*> fs.optional "complexity" .medium (Check.word Complexity)
    <*> fs.optional "confidence" 0 (fun v => (Check.int v).andThen (Check.within 0 100))
    <*> fs.optional "reasoning" "" Check.text
    <*> fs.optional "tech_preferences" [] Check.texts
    <*> fs.optional "suggestions" [] Check.texts

def toFields (i : Intent) : Fields := [
  ("archetype", .text i.archetype),
  ("features", .texts i.features),
  ("complexity", .label (.complexity i.complexity)),
  ("confidence", .int i.confidence),
  ("reasoning", .text i.reasoning),
  ("tech_preferences", .texts i.techPreferences),
  ("suggestions", .texts i.suggestions)]

end Intent

end Promptsmith
