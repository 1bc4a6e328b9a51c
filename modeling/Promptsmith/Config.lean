import Promptsmith.Engine.Store
import Promptsmith.Failure
import Promptsmith.Json
import Promptsmith.Record.Field

/-!
# Configuration

The settings of the command line. They come from a JSON text or from environment variables, and
are written as JSON again.
-/
namespace Promptsmith

structure Config where
  templatesDir : String
  toolVersion : String
  previewLength : Int
  experience : Experience
  phase : Phase
  baseFiles : List String
  deriving DecidableEq, Repr

/-- The base files that an engine starts with. -/
def defaultBaseFiles : List String :=
  ["base/core.md", "base/best-practices.md", "base/tech-stack-guide.md"]

/-- A path in its normal form. -/
def Check.path (v : Value) : Checked String :=
  match v.text? with
  | some s => .valid (Files.normalText s)
  | none => .fail .pathType

namespace Config

def check (fs : Fields) : Checked Config :=
  mk <$> fs.optional "templates_dir" bundledRoot Check.path
    <*> fs.optional "tool_version" "1.0.0" Check.text
    <*> fs.optional "preview_length" 200 (fun v => (Check.int v).andThen (Check.atLeast 1))
    <*> fs.optional "default_experience" .intermediate (Check.choice Experience)
    <*> fs.optional "default_phase" .development (Check.choice Phase)
    <*> fs.optional "base_files" defaultBaseFiles Check.texts

def toFields (c : Config) : Fields := [
  ("templates_dir", .text c.templatesDir),
  ("tool_version", .text c.toolVersion),
  ("preview_length", .int c.previewLength),
  ("default_experience", .text c.experience.name),
  ("default_phase", .text c.phase.name),
  ("base_files", .texts c.baseFiles)]

/-! ### JSON -/

def invalid (problems : List Problem) : Failure :=
  .invalid "Config" problems

/-- Reads a configuration from a JSON text. -/
def ofJson (text : String) : Except Failure Config :=
  match Json.read .strict text with
  | .error _ => .error (invalid [⟨[], .invalidJson⟩])
  | .ok v =>
    match Check.fields check v with
    | .valid c => .ok c
    | .invalid ps => .error (invalid ps)

def writeMember (name : String) (value : List Char) : List Char :=
  [' ', ' '] ++ Json.writeString name ++ [':', ' '] ++ value

/-- A list of texts, one a line, inside an object. -/
def writeTexts (ss : List String) : List Char :=
  if ss.isEmpty then ['[', ']']
  else
    '[' :: '\n' ::
      List.intercalate [',', '\n'] (ss.map fun s => [' ', ' ', ' ', ' '] ++ Json.writeString s) ++
        ['\n', ' ', ' ', ']']

/-- The configuration as JSON, indented by two. -/
def toJson (c : Config) : String :=
  String.ofList ('\x7b' :: '\n' :: List.intercalate [',', '\n'] [
    writeMember "templates_dir" (Json.writeString c.templatesDir),
    writeMember "tool_version" (Json.writeString c.toolVersion),
    writeMember "preview_length" (toString c.previewLength).toList,
    writeMember "default_experience" (Json.writeString c.experience.name),
    writeMember "default_phase" (Json.writeString c.phase.name),
    writeMember "base_files" (writeTexts c.baseFiles)] ++ ['\n', '\x7d'])

/-! ### Files -/

/-- Loads a configuration from a file that holds its JSON. -/
def load (t : Files.Tree) (p : Files.Path) : Except Failure Config :=
  match t.read p with
  | .error e => .error (.file e)
  | .ok text => ofJson text

/-- Saves a configuration as JSON. -/
def save (c : Config) (t : Files.Tree) (p : Files.Path) :
    Files.Tree × Except Files.FileError Unit :=
  t.save p c.toJson

/-! ### Environment -/

/-- A whole number from the environment. Too many digits are refused before what follows them is
looked at. -/
def wholeNumber (text : String) : Except Failure Int :=
  match Decimal.takeWhole? text.toList with
  | none => .error (.noWholeNumber text)
  | some (negative, ds, rest) =>
    if Decimal.maxDigits < ds.length then .error (.tooManyDigits ds.length)
    else if rest.all Text.isSpace then .ok (Decimal.applySign negative (Decimal.ofDigits ds))
    else .error (.noWholeNumber text)

/-- A variable that is set and not empty. -/
def setting? (env : List (String × String)) (name : String) : Option String :=
  (env.lookup ("PROMPTGEN_" ++ name)).filter (· ≠ "")

/-- The entry that a variable stands for, if it is set. -/
def entry (field : String) (value : Option String) : Fields :=
  match value with
  | some s => [(field, .text s)]
  | none => []

def ofEnvironment (env : List (String × String)) : Except Failure Config := do
  let length ←
    match setting? env "PREVIEW_LENGTH" with
    | some s => (wholeNumber s).map fun n => [("preview_length", Value.int n)]
    | none => .ok []
  let fs := entry "templates_dir" (setting? env "TEMPLATES_DIR") ++
    entry "tool_version" (setting? env "TOOL_VERSION") ++ length ++
    entry "default_experience" (setting? env "EXPERIENCE") ++
    entry "default_phase" (setting? env "PHASE")
  match check fs with
  | .valid c => .ok c
  | .invalid ps => .error (invalid ps)

end Config

end Promptsmith
