import Promptsmith.Failure
import Promptsmith.Text.Case
import Promptsmith.Text.Blank
import Promptsmith.Value.Text

/-!
# The score of a prompt

The score tells on a scale to one hundred how much went into a prompt. Its terms depend on the
complexity, on whether the project type is known, on the number of features and on the number of
recognised technologies, and none of the last three ever lowers it.
-/
namespace Promptsmith.Score

def recognized : List String := [
  "next.js", "nextjs", "react", "vue", "angular", "svelte",
  "typescript", "javascript", "node.js", "nodejs",
  "tailwind", "tailwind css", "prisma", "drizzle",
  "postgresql", "postgres", "mysql", "mongodb", "sqlite", "redis",
  "supabase", "firebase", "stripe", "paypal",
  "graphql", "rest", "trpc", "docker", "vercel", "aws",
  "nextauth", "auth.js", "clerk", "zustand"]

def isSeparator (c : Char) : Bool :=
  c == '+' || c == ',' || c == '/' || c == '|'

/-- A name without regard to case and surrounding white space. -/
def normalized (s : String) : String :=
  String.ofList (Text.lower (Text.trim s.toList))

/-- The names a stack of technologies lists: a string is split, a sequence taken item by item. -/
def listed (stack : Value) : Except Failure (List String) :=
  if stack.truthy then
    match stack.text? with
    | some s => .ok (Text.splitTrimmed isSeparator s)
    | none => stack.iterate.map (·.map Value.plain)
  else .ok []

/-- Adds a name at the end unless it is there. -/
def addNew (names : List String) (name : String) : List String :=
  if name ∈ names then names else names ++ [name]

/-- The recognised ones of some names, each once, in order of first occurrence. -/
def recognizedAmong (names : List String) : List String :=
  ((names.map normalized).filter (· ∈ recognized)).foldl addNew []

def technologies (stack : Value) : Except Failure (List String) :=
  (listed stack).map recognizedAmong

/-- The normalized text of a value; nothing for a value that does not count. -/
def word (v : Value) : String :=
  if v.truthy then normalized v.plain else ""

def complexityBase (v : Value) : Nat :=
  match word v with
  | "simple" => 40
  | "medium" => 50
  | "complex" => 60
  | _ => 45

def typeBonus (v : Value) : Nat :=
  if (Vocabulary.ofName? (α := Archetype) (word v)).isSome then 10 else 0

def featureBonus (v : Value) : Nat :=
  match v.items? with
  | some items => min 25 (items.length * 5)
  | none => 0

def technologyBonus (names : List String) : Nat :=
  match names.length with
  | 0 => 0
  | 1 => 5
  | _ => 10

/-- The values that are written out for a score. -/
def written (context : Fields) : List Value :=
  context.get "complexity_level" :: context.get "project_type" ::
    (context.get "tech_stack").iterate.toOption.getD []

/-- The score of the values that a prompt is rendered with. -/
def confidence (context : Fields) : Except Failure Nat :=
  (technologies (context.get "tech_stack")).map fun names =>
    min 100 (complexityBase (context.get "complexity_level") +
      typeBonus (context.get "project_type") +
      featureBonus (context.get "detected_features") + technologyBonus names)

end Promptsmith.Score
