/-!
# Closed vocabularies

The words that requests, variants and feedback are written with. Each vocabulary lists its words
once, in order, and every word is found again by its name.
-/
namespace Promptsmith

/-- A type whose members are listed and have distinct names, so that each is found by its own. -/
class Vocabulary (α : Type) where
  all : List α
  name : α → String
  found : ∀ a, all.find? (fun b => name b == name a) = some a

/-- The word of a given name. -/
def Vocabulary.ofName? {α : Type} [Vocabulary α] (name : String) : Option α :=
  (Vocabulary.all (α := α)).find? fun a => Vocabulary.name a == name

theorem Vocabulary.ofName?_name {α : Type} [Vocabulary α] (a : α) :
    Vocabulary.ofName? (Vocabulary.name a) = some a := Vocabulary.found a

/-- Only a word's own name finds it. -/
theorem Vocabulary.name_of_ofName? {α : Type} [Vocabulary α] {s : String} {a : α}
    (h : Vocabulary.ofName? s = some a) : Vocabulary.name a = s := by
  simpa using List.find?_some h

theorem Vocabulary.mem_all {α : Type} [Vocabulary α] (a : α) : a ∈ (Vocabulary.all : List α) :=
  List.mem_of_find?_eq_some (Vocabulary.found a)

/-- The kinds of project that guidance is written for. -/
inductive Archetype where
  | ecommerce
  | saas
  | blog
  | portfolio
  | dashboard
  deriving DecidableEq, Repr

/-- How experienced the reader is. -/
inductive Experience where
  | beginner
  | intermediate
  | expert
  deriving DecidableEq, Repr

/-- Where a project stands in its life. -/
inductive Phase where
  | planning
  | development
  | optimization
  deriving DecidableEq, Repr

/-- What a variant emphasises. -/
inductive Focus where
  | implementation
  | architecture
  | bestPractices
  | troubleshooting
  deriving DecidableEq, Repr

/-- How useful a prompt turned out to be. -/
inductive Usage where
  | helpful
  | partiallyHelpful
  | notHelpful
  deriving DecidableEq, Repr

/-- How complex a project looks. -/
inductive Complexity where
  | simple
  | medium
  | complex
  deriving DecidableEq, Repr

def Archetype.name : Archetype → String
  | .ecommerce => "ecommerce"
  | .saas => "saas"
  | .blog => "blog"
  | .portfolio => "portfolio"
  | .dashboard => "dashboard"

instance : Vocabulary Archetype where
  all := [.ecommerce, .saas, .blog, .portfolio, .dashboard]
  name := Archetype.name
  found a := by cases a <;> decide

def Experience.name : Experience → String
  | .beginner => "beginner"
  | .intermediate => "intermediate"
  | .expert => "expert"

instance : Vocabulary Experience where
  all := [.beginner, .intermediate, .expert]
  name := Experience.name
  found a := by cases a <;> decide

def Phase.name : Phase → String
  | .planning => "planning"
  | .development => "development"
  | .optimization => "optimization"

instance : Vocabulary Phase where
  all := [.planning, .development, .optimization]
  name := Phase.name
  found a := by cases a <;> decide

def Focus.name : Focus → String
  | .implementation => "implementation"
  | .architecture => "architecture"
  | .bestPractices => "best-practices"
  | .troubleshooting => "troubleshooting"

instance : Vocabulary Focus where
  all := [.implementation, .architecture, .bestPractices, .troubleshooting]
  name := Focus.name
  found a := by cases a <;> decide

def Usage.name : Usage → String
  | .helpful => "helpful"
  | .partiallyHelpful => "partially_helpful"
  | .notHelpful => "not_helpful"

instance : Vocabulary Usage where
  all := [.helpful, .partiallyHelpful, .notHelpful]
  name := Usage.name
  found a := by cases a <;> decide

def Complexity.name : Complexity → String
  | .simple => "simple"
  | .medium => "medium"
  | .complex => "complex"

instance : Vocabulary Complexity where
  all := [.simple, .medium, .complex]
  name := Complexity.name
  found a := by cases a <;> decide

end Promptsmith
