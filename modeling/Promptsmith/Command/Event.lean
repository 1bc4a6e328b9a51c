import Promptsmith.Analysis.Basic
import Promptsmith.Engine.Descriptor
import Promptsmith.Engine.Rendering

/-!
# Console events

What a command shows, before layout: lines with markup, empty lines, panels, rules, tables, and
plain text that is passed on as it is. For a console without colours events are laid out as lines of
text: tags are taken out of markup, and panels, rules and tables are written without frames.
-/
namespace Promptsmith.Command

inductive Event where
  | line (markup : String)
  | blank
  | panel (text title border : String)
  | rule (title style : String)
  | table (title : String) (columns : List String) (rows : List (List String))
  | plain (text : String)
  deriving DecidableEq, Repr

namespace Event

/-- The texts of an event that are read as markup. -/
def markups : Event → List String
  | .line markup => [markup]
  | .blank => []
  | .panel text title _ => [text, title]
  | .rule title _ => [title]
  | .table title columns rows => title :: columns ++ rows.flatten
  | .plain _ => []

def error (message : String) : Event :=
  .line ("[bold red]" ++ message ++ "[/bold red]")

def success (message : String) : Event :=
  .line ("[bold green]" ++ message ++ "[/bold green]")

def warning (message : String) : Event :=
  .line ("[bold yellow]" ++ message ++ "[/bold yellow]")

/-- A rule with a title, between empty lines. -/
def header (title : String) : List Event := [
  .blank,
  .rule ("[bold bright_cyan] " ++ title ++ " [/bold bright_cyan]") "bright_cyan",
  .blank]

/-- Words in a row, or a hyphen for none. -/
def listing (words : List String) : String :=
  if words.isEmpty then "-" else String.intercalate ", " words

/-- The summary of an intent, and an empty line. -/
def intentSummary (i : Intent) : List Event := [
  .table "Intent Analysis" ["Item", "Value"] [
    ["Project type", i.archetype],
    ["Confidence", toString i.confidence ++ "%"],
    ["Features", listing i.features],
    ["Complexity", i.complexity.name],
    ["Tech", listing i.techPreferences]],
  .blank]

def descriptors (ds : List Descriptor) : Event :=
  .table "Prompt Templates" ["Type", "Template", "Description", "Variables"]
    (ds.map fun d =>
      [d.archetype, d.id, d.description, String.intercalate ", " d.declared])

def promptSummary (m : Metadata) (size : Nat) : String :=
  "[green]Prompt generated[/green]" ++
    "\n  Type: " ++ m.archetype ++
    "\n  Template: " ++ m.templateId ++
    "\n  Features: " ++ listing m.detectedFeatures ++
    "\n  Confidence: " ++ toString m.confidence ++ "%" ++
    "\n  Size: " ++ toString size ++ " chars"

/-- The panel that tells how a generation ended. -/
def rendering (r : Rendering) : Event :=
  match r.outcome with
  | .prompt text => .panel (promptSummary r.metadata text.length) "Prompt Ready" "green"
  | .error message => .panel ("[red]" ++ message ++ "[/red]") "Generation Failed" "red"

end Event

/-! ### Plain layout -/

/-- A tag goes on like this: a name or a slash first, and a bracket somewhere. -/
def startsTag (s : List Char) : Bool :=
  match s with
  | c :: _ => (c.isLower || c == '/') && s.contains ']'
  | [] => false

/-- Takes the tags out of markup; `inside` says that one has begun. -/
def dropTags (inside : Bool) : List Char → List Char
  | [] => []
  | c :: r =>
    if inside then dropTags (c != ']') r
    else if c = '[' ∧ startsTag r then dropTags true r
    else c :: dropTags false r

def withoutTags (markup : String) : String :=
  String.ofList (dropTags false markup.toList)

def row (cells : List String) : String :=
  String.intercalate " | " cells

def Event.text : Event → String
  | .line markup => withoutTags markup
  | .blank => ""
  | .panel text title _ => title ++ "\n" ++ withoutTags text
  | .rule title _ => "---" ++ withoutTags title ++ "---"
  | .table title columns rows => String.intercalate "\n" (title :: row columns :: rows.map row)
  | .plain text => text

end Promptsmith.Command
