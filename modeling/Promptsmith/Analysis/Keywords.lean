import Promptsmith.Text.Keyword
import Promptsmith.Text.Classes
import Promptsmith.Vocabulary

/-!
# Keyword tables

The words that descriptions are read by. A keyword counts where it stands whole: no ASCII letter in
lower case and no digit touches it.
-/
namespace Promptsmith.Analysis

/-- What a group of keywords is about, which decides how much a hit is worth. -/
inductive Category where
  | type
  | feature
  | tech
  deriving DecidableEq, Repr

def Category.multiplier : Category → Float
  | .type => 1.5
  | .feature => 1.2
  | .tech => 0.8

structure KeywordGroup where
  keywords : List String
  weight : Nat
  category : Category
  deriving DecidableEq, Repr

def keywordGroups : Archetype → List KeywordGroup
  | .ecommerce => [
      ⟨["ecommerce", "e-commerce", "shop", "store", "cart", "payment", "marketplace", "retail",
        "online store", "sell", "buy"], 10, .type⟩,
      ⟨["inventory", "merchant", "vendor", "supplier", "logistics", "warehouse"], 8, .feature⟩,
      ⟨["stripe", "paypal", "checkout"], 6, .tech⟩,
      ⟨["coupon", "discount", "promotion", "marketing"], 7, .feature⟩,
      ⟨["order", "shipping", "purchase"], 9, .type⟩]
  | .saas => [
      ⟨["saas", "subscription", "multi-tenant", "tenant", "software as a service"], 10, .type⟩,
      ⟨["billing", "team management", "rbac", "role", "pricing", "plan"], 8, .feature⟩,
      ⟨["api", "webhook", "integration", "rest api", "graphql"], 6, .tech⟩,
      ⟨["workflow", "automation", "process"], 7, .feature⟩,
      ⟨["organization", "department", "collaboration", "workspace"], 8, .type⟩]
  | .blog => [
      ⟨["blog", "post", "article", "cms", "content", "publish", "news", "writing"], 10, .type⟩,
      ⟨["comment", "seo", "tag", "category", "archive"], 8, .feature⟩,
      ⟨["markdown", "editor", "wysiwyg", "mdx"], 6, .tech⟩,
      ⟨["newsletter", "rss", "notification"], 7, .feature⟩,
      ⟨["author", "editorial", "review"], 6, .feature⟩]
  | .portfolio => [
      ⟨["portfolio", "personal website", "resume", "personal site", "personal brand"], 10, .type⟩,
      ⟨["projects", "skills", "contact form", "about me", "experience"], 8, .feature⟩,
      ⟨["animation", "responsive", "interactive", "parallax"], 6, .tech⟩,
      ⟨["designer", "creative", "artist", "photographer"], 7, .type⟩,
      ⟨["case study", "showcase", "gallery"], 6, .feature⟩]
  | .dashboard => [
      ⟨["dashboard", "admin panel", "admin", "back office", "analytics", "data visualization",
        "console"], 10, .type⟩,
      ⟨["user management", "data table", "statistics", "report", "monitoring"], 8, .feature⟩,
      ⟨["echarts", "chart.js", "d3", "recharts", "plotly", "highcharts"], 6, .tech⟩,
      ⟨["kpi", "metrics", "performance", "trend"], 7, .feature⟩,
      ⟨["real-time", "realtime", "live data", "data source"], 6, .tech⟩]

/-- Words that settle for an online store wherever no word character touches them. -/
def commerceHints : List String :=
  ["ecommerce", "e-commerce", "shopping", "online store", "shopping cart", "checkout"]

/-- Words looked for anywhere in the text when the keyword groups say too little. -/
def fallbackWords : Archetype → List String
  | .ecommerce => ["ecommerce", "shop", "store", "cart", "order", "product", "payment"]
  | .saas => ["saas", "subscription", "tenant", "billing", "enterprise"]
  | .blog => ["blog", "article", "cms", "post", "publish"]
  | .portfolio => ["portfolio", "personal", "showcase", "resume"]
  | .dashboard => ["dashboard", "admin", "chart", "analytics", "report"]

def featureKeywords : List (String × List String) := [
  ("auth", ["login", "register", "sign up", "signup", "auth", "user account", "users"]),
  ("payment", ["payment", "pay", "transaction", "stripe", "checkout"]),
  ("admin", ["admin", "management", "back office"]),
  ("upload", ["upload", "file", "image", "media"]),
  ("email", ["email", "mail", "newsletter", "notification"]),
  ("realtime", ["realtime", "real-time", "chat", "websocket", "live"]),
  ("search", ["search", "find", "filter"]),
  ("analytics", ["analytics", "statistics", "metrics", "insights"])]

def complexityKeywords : List (Complexity × List String) := [
  (.complex, ["complex", "enterprise", "large-scale", "advanced", "scalable"]),
  (.medium, ["medium", "standard", "team", "business"]),
  (.simple, ["simple", "basic", "minimal", "personal", "small"])]

def techKeywords : List (String × List String) := [
  ("React", ["react"]),
  ("Next.js", ["next.js", "nextjs"]),
  ("TypeScript", ["typescript"]),
  ("PostgreSQL", ["postgres", "postgresql"]),
  ("MySQL", ["mysql"]),
  ("MongoDB", ["mongodb", "mongo"]),
  ("Stripe", ["stripe"]),
  ("Supabase", ["supabase"]),
  ("Firebase", ["firebase"])]

/-- The features that a project of an archetype should have; an unknown one needs users only. -/
def recommendedFeatures : Option Archetype → List String
  | some .ecommerce => ["auth", "payment", "admin", "upload", "email"]
  | some .saas => ["auth", "admin", "analytics", "email"]
  | some .blog => ["auth", "upload", "search", "email"]
  | some .portfolio => ["upload", "email"]
  | some .dashboard => ["auth", "admin", "analytics"]
  | none => ["auth"]

/-- The archetypes that always come with user accounts. -/
def authByDefault : Archetype → Bool
  | .ecommerce => true
  | .saas => true
  | .blog => false
  | .portfolio => false
  | .dashboard => true

def optionalFeatures : List String := ["upload", "email", "analytics"]
def actionVerbs : List String := ["build", "create", "develop", "design", "implement", "make"]
def domainWords : List String :=
  ["website", "platform", "system", "application", "app", "tool", "site"]

/-- The keyword stands whole in the text. -/
def mentions (text : List Char) (keyword : String) : Bool :=
  Text.containsWhole Text.isLowerAlnum keyword.toList text

def mentionsAny (text : List Char) (keywords : List String) : Bool :=
  keywords.any (mentions text)

/-- The whole occurrences of a keyword. -/
def hits (text : List Char) (keyword : String) : Nat :=
  Text.countWhole Text.isLowerAlnum keyword.toList text

end Promptsmith.Analysis
