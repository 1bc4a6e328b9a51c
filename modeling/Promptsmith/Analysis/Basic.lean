import Promptsmith.Analysis.Keywords
import Promptsmith.Decimal.Binary
import Promptsmith.Failure
import Promptsmith.Intent
import Promptsmith.Value.Same

/-!
# Analysis of descriptions

A description in lower case is read by the keyword tables. The archetype is the one with the best
score, where an online store already wins with nine tenths of it; features and technologies that
the caller names are merged with those found; the confidence adds up what speaks for the reading.
-/
namespace Promptsmith.Analysis

/-! ### Archetype -/

def groupScore (text : List Char) (score : Float) (g : KeywordGroup) : Float :=
  g.keywords.foldl (fun score keyword =>
    match hits text keyword with
    | 0 => score
    | n => score + Float.ofNat g.weight * g.category.multiplier * Float.ofNat n) score

/-- The weighted hits of an archetype's keywords, added up in the order of the table. -/
def score (text : List Char) (a : Archetype) : Float :=
  (keywordGroups a).foldl (groupScore text) 0.0

def isHinted (text : List Char) : Bool :=
  commerceHints.any fun hint => Text.containsWhole Text.isWord hint.toList text

/-- The first archetype with the greatest measure; the start stands if none exceeds it. -/
def best {α : Type} (exceeds : α → α → Bool) (measure : Archetype → α) (start : Archetype × α) :
    Archetype × α :=
  (Vocabulary.all : List Archetype).foldl (fun found a =>
    if exceeds (measure a) found.2 then (a, measure a) else found) start

/-- The archetype most of whose words occur in the text. -/
def fallback (text : List Char) : Archetype :=
  (best (fun m n => decide (n < m))
    (fun a => (fallbackWords a).countP fun w => Text.occursIn w.toList text) (.blog, 0)).1

def identify (text : List Char) : Archetype :=
  if isHinted text then .ecommerce
  else
    let found := best (fun x y => decide (y < x)) (score text) (.blog, 0.0)
    if found.2 < 10.0 then fallback text
    else if found.1 ≠ .ecommerce ∧ found.2 * 0.9 ≤ score text .ecommerce then .ecommerce
    else found.1

/-! ### Features, complexity, technologies -/

/-- The entries of a table that one of their keywords speaks for. -/
def found (table : List (String × List String)) (text : List Char) : List String :=
  (table.filter fun entry => mentionsAny text entry.2).map (·.1)

def featuresIn (text : List Char) : List String :=
  found featureKeywords text

def technologiesIn (text : List Char) : List String :=
  found techKeywords text

def assess (text : List Char) (featureCount : Nat) : Complexity :=
  match complexityKeywords.find? fun entry => mentionsAny text entry.2 with
  | some (level, _) => level
  | none =>
    if 5 ≤ featureCount then .complex else if 3 ≤ featureCount then .medium else .simple

/-! ### Confidence -/

/-- The keywords naming the archetype that the text holds. -/
def typeHits (text : List Char) (a : Option Archetype) : Nat :=
  match a with
  | none => 0
  | some a =>
    (((keywordGroups a).filter fun g => g.category = .type).flatMap (·.keywords)).countP
      (mentions text)

/-- The confidence in sixtieths of a point, before rounding: the share of recommended features is
worth fifteen points. -/
def sixtieths (text : List Char) (a : Option Archetype) (features : List String) : Nat :=
  let recommended := recommendedFeatures a
  let words := Text.wordCount text
  let points :=
    (if words < 3 then 40 else 50) + min 20 (typeHits text a * 5) +
      (if 5 ≤ words ∧ words ≤ 50 then 5 else 0) +
      (if mentionsAny text actionVerbs then 3 else 0) +
      (if mentionsAny text domainWords then 2 else 0)
  points * 60 + features.countP (· ∈ recommended) * (900 / recommended.length)

def confidenceOf (text : List Char) (a : Option Archetype) (features : List String) : Nat :=
  min 100 (Decimal.roundHalfEven (sixtieths text a features) 60)

/-! ### The whole analysis -/

/-- Adds the items that are not there yet, one by one. -/
def mergeBy {α : Type} (same : α → α → Bool) (into more : List α) : List α :=
  more.foldl (fun acc x => if acc.any (same x) then acc else acc ++ [x]) into

/-- The distinct items of two lists in order of first occurrence. -/
def merge (first second : List String) : List String :=
  mergeBy (· == ·) (mergeBy (· == ·) [] first) second

def reasoningText (a : Archetype) (featureCount : Nat) (complexity : Complexity) : String :=
  "Matched '" ++ a.name ++ "' from description keywords; " ++ toString featureCount ++
    " feature(s) detected, complexity " ++ complexity.name ++ "."

/-- The features that an archetype recommends and that are missing. -/
def missing (a : Option Archetype) (features : List String) : List String :=
  (recommendedFeatures a).filter (· ∉ features)

/-- Reads a description, with the features and technologies that the caller already knows. -/
def analyze (description : String) (knownFeatures knownTech : List String) : Intent :=
  let text := Text.lower description.toList
  let archetype := identify text
  let merged := merge knownFeatures (featuresIn text)
  let complexity := assess text merged.length
  let all :=
    if authByDefault archetype ∧ "auth" ∉ merged then merged ++ ["auth"] else merged
  { archetype := archetype.name
    features := all
    complexity
    confidence := confidenceOf text (some archetype) merged
    reasoning := reasoningText archetype all.length complexity
    techPreferences := merge (technologiesIn text) knownTech
    suggestions := (missing (some archetype) all).map fun f => "Consider adding '" ++ f ++ "'" }

/-- The items of a list that a caller may leave out. -/
def given (v : Value) : Except Failure (List Value) :=
  if v.truthy then v.iterate else .ok []

/-- The same for lists as they come: whatever can be iterated is, and items that are no texts make
the intent invalid. -/
def analyzeValues (description : String) (knownFeatures knownTech : Value) :
    Except Failure Intent := do
  let fs ← given knownFeatures
  let ts ← given knownTech
  match fs.mapM Value.text?, ts.mapM Value.text? with
  | some fs, some ts => .ok (analyze description fs ts)
  | _, _ =>
    let text := Text.lower description.toList
    let mergeValues (a b : List Value) := mergeBy Value.same (mergeBy Value.same [] a) b
    let merged := mergeValues fs ((featuresIn text).map .text)
    let tech := mergeValues ((technologiesIn text).map .text) ts
    match Prod.mk <$> (Check.texts (.list merged)).under "features"
      <*> (Check.texts (.list tech)).under "tech_preferences" with
    | .valid (fs, ts) => .ok (analyze description fs ts)
    | .invalid problems => .error (.invalid "ProjectIntent" problems)

/-! ### Trust in an intent -/

/-- What speaks against trusting an intent. -/
def warnings (i : Intent) : List String :=
  let absent := (missing (Vocabulary.ofName? i.archetype) i.features).filter (· ∉ optionalFeatures)
  (if i.confidence < 60 then ["Low confidence: describe the project in more detail"] else []) ++
    (if i.confidence ≤ 70 ∧ absent ≠ [] then
      ["Consider adding these features: " ++ String.intercalate ", " absent] else [])

def isTrusted (i : Intent) : Bool :=
  40 ≤ i.confidence

end Promptsmith.Analysis
