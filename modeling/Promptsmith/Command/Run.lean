import Promptsmith.Command.Event
import Promptsmith.Command.Invocation
import Promptsmith.Config
import Promptsmith.Engine.Generate
import Promptsmith.Text.Case

/-!
# Running commands

A command sees the environment, the files and the clock. It shows events, may write one file, and
ends with an exit code; what a user got wrong is shown and gives code one, faulty arguments give
code two. A failure to write the output, or to look at a path, ends the command, and so does an
event that the console refuses.
-/
namespace Promptsmith.Command

/-- What a command finds when it starts. -/
structure Scene where
  environment : List (String × String)
  files : Files.Tree
  clock : Clock
  deriving DecidableEq, Repr

/-- What a command has done so far. -/
structure Desk where
  events : List Event
  files : Files.Tree
  deriving DecidableEq, Repr

/-- Work of a command, which a failure ends before its time. -/
abbrev Job := EStateM Failure Desk

namespace Job

/-- Hands an event to the console. One that is refused ends the command. -/
def hand [Console] (event : Event) : Job Unit := do
  modify fun d => { d with events := d.events ++ [event] }
  match event.markups.findSome? Console.refusal? with
  | some message => throw (.markup message)
  | none => return ()

def emit [Console] (events : List Event) : Job Unit :=
  events.forM hand

/-- Shows what went wrong; the exit code is one. -/
def complain [Console] (message : String) : Job Nat := do
  emit [.error message]
  return 1

def files : Job Files.Tree := do
  return (← get).files

def ofExcept {α : Type} : Except Failure α → Job α
  | .ok a => return a
  | .error f => throw f

/-- Runs an operation of an engine, which hands its notes to the console itself. -/
def onEngine {α : Type} (e : Engine) (act : Act α) : Job α := do
  let (result, session) := Act.start act e
  modify fun d => { d with events := d.events ++ session.notes.map .line }
  ofExcept result

/-- Saves a text in a file. -/
def save (p : Files.Path) (text : String) : Job Unit := do
  let (tree, result) := (← files).save p text
  modify fun d => { d with files := tree }
  ofExcept (result.mapError .file)

end Job

/-! ### Lists from files -/

/-- Why a list cannot be read. -/
inductive InputFault where
  | file (error : Files.FileError)
  | json (fault : Json.Fault)
  deriving DecidableEq, Repr

def InputFault.message : InputFault → String
  | .file error => error.message
  | .json fault => fault.message

/-- A value as a list; any but a list is the only item of one. -/
def asList : Value → List Value
  | .list vs => vs
  | v => [v]

/-- The list that a file holds as JSON. A file that is not there holds the empty list. -/
def readList (t : Files.Tree) (p : Files.Path) : Except InputFault (List Value) :=
  match t.isThere p with
  | .error e => .error (.file e)
  | .ok false => .ok []
  | .ok true =>
    match t.read p with
    | .error e => .error (.file e)
    | .ok text => ((Json.read .lenient text).mapError .json).map asList

/-! ### Configuration and feedback -/

/-- The configuration of a file, or else of the environment. -/
def loadConfig (s : Scene) (path : Option String) : Except Failure Config :=
  match path with
  | some path => Config.load s.files (Files.Path.ofText path)
  | none => Config.ofEnvironment s.environment

/-- The engine that a configuration sets up. -/
def engineOf (c : Config) (files : Files.Tree) (clock : Clock) : Engine :=
  .fresh (Store.ofDirectory files.withBundled c.templatesDir)
    ⟨c.toolVersion, c.previewLength, c.baseFiles, clock⟩

/-- What keeps a JSON file from being read at all: it is there, and it is nested too deep. -/
def nesting? [Host] (files : Files.Tree) (p : Files.Path) : Option String :=
  match files.isThere p, files.read p with
  | .ok true, .ok text => Host.overflow? text
  | _, _ => none

/-- The feedback that a file lists. -/
def readFeedback (files : Files.Tree) (path : String) : Except String (List Feedback) :=
  match readList files (Files.Path.ofText path) with
  | .error e => .error e.message
  | .ok vs =>
    (vs.mapM (Value.makeRecord "TemplateFeedback" Feedback.check)).mapError Failure.report

/-- The feedback that is given, or what to tell the user of it. -/
def feedbackOf [Host] (files : Files.Tree) :
    Option String → Except Failure (Except String (List Feedback))
  | none => .ok (.ok [])
  | some path =>
    match files.isFile (Files.Path.ofText path) with
    | .error e => .error (.file e)
    | .ok false => .ok (.error ("Feedback file not found: " ++ path))
    | .ok true =>
      match nesting? files (Files.Path.ofText path) with
      | some message => .error (.nesting message)
      | none =>
        .ok <| (readFeedback files path).mapError fun message =>
          "Invalid feedback file " ++ path ++ ": " ++ Host.escaped message

/-! ### Requests -/

/-- The intent of a request: that of the description, except for an archetype that is given. -/
def GenerateOptions.intent (o : GenerateOptions) : Intent :=
  let i := Analysis.analyze o.description (Text.items (o.features.getD ""))
    (Text.items (o.tech.getD ""))
  match o.archetype with
  | some a => { i with archetype := a.name }
  | none => i

/-- The technologies that are given, if any. -/
def GenerateOptions.stack (o : GenerateOptions) : Value :=
  match Text.items (o.tech.getD "") with
  | [] => .null
  | names => .texts names

def GenerateOptions.projectName (o : GenerateOptions) : String :=
  o.name.getD ("my-" ++ o.intent.archetype ++ "-app")

/-- Hands over a finished prompt: into a file, or onto the console. -/
def deliver [Console] (o : GenerateOptions) (prompt : String) : Job Unit :=
  match o.output with
  | some path => do
    let path := Files.Path.ofText path
    Job.save path prompt
    Job.emit [.success ("Prompt written to " ++ path.text)]
  | none =>
    Job.emit (Event.header (Text.fileName o.projectName ++ " prompt") ++ [.plain prompt])

def generate [Console] [Host] (e : Engine) (c : Config) (o : GenerateOptions) : Job Nat := do
  if o.description = "" ∧ o.archetype = none then
    Job.complain "Provide a description or --type"
  else
    match ← Job.ofExcept (feedbackOf (← Job.files) o.feedback) with
    | .error message => Job.complain message
    | .ok feedback =>
      let i := o.intent
      let context ← Job.onEngine e <| Act.ofExcept <|
        buildContext i (.text o.projectName) c.toolVersion o.stack .null e.settings.clock.today []
      let r ← Job.onEngine e <| Engine.generate i.archetype context.toFields <|
        some ⟨i, o.experience.getD c.experience, o.phase.getD c.phase, feedback⟩
      Job.emit [.rendering r]
      match r.outcome with
      | .error _ => return 1
      | .prompt prompt =>
        deliver o prompt
        return 0

def analyze [Console] (description : String) : Job Nat := do
  let i := Analysis.analyze description [] []
  Job.emit (Event.intentSummary i ++ (Analysis.warnings i).map .warning)
  return if Analysis.isTrusted i then 0 else 1

def preview [Console] (e : Engine) (hint : String) : Job Nat := do
  match ← Job.onEngine e (Engine.preview hint) with
  | none => Job.complain ("No template found for project type: " ++ hint)
  | some text =>
    Job.emit [.plain text]
    return 0

def list [Console] (e : Engine) : Job Nat := do
  Job.emit [.descriptors (← Job.onEngine e Registry.list)]
  return 0

def answer [Console] [Host] (e : Engine) (c : Config) : Request → Job Nat
  | .generate o => generate e c o
  | .analyze description => analyze description
  | .preview hint => preview e hint
  | .list => list e

def perform [Console] [Host] (s : Scene) (i : Invocation) : Job Nat :=
  match loadConfig s i.config with
  | .error f => Job.complain ("Could not load configuration: " ++ f.report)
  | .ok c => answer (engineOf c s.files s.clock) c i.request

/-! ### What a command may look at -/

/-- The files that an invocation names. -/
def Invocation.paths (i : Invocation) : List String :=
  i.config.toList ++
    match i.request with
    | .generate o => o.feedback.toList ++ o.output.toList
    | _ => []

/-- The template bodies below the directory of a configuration. -/
def bodyPaths (c : Config) : List String :=
  ((Vocabulary.all : List Archetype).map Archetype.mainPath ++
    Catalog.bundled.all.map Variant.bodyPath ++ c.baseFiles).map fun path =>
      ((Files.Path.ofText c.templatesDir).join path).text

/-! ### The program -/

inductive Ending where
  | exit (code : Nat)
  | refused (refusal : Refusal)
  | broken (failure : Failure)
  deriving DecidableEq, Repr

def Ending.code : Ending → Nat
  | .exit code => code
  | .refused .help => 0
  | .refused (.usage _) => 2
  | .broken _ => 1

structure Report where
  ending : Ending
  events : List Event
  files : Files.Tree
  deriving DecidableEq, Repr

/-- Runs the program on its arguments. -/
def run [Console] [Host] (s : Scene) (arguments : List String) : Report :=
  match Invocation.ofArguments arguments with
  | .error refusal => ⟨.refused refusal, [], s.files⟩
  | .ok i =>
    match perform s i ⟨[], s.files⟩ with
    | .ok code d => ⟨.exit code, d.events, d.files⟩
    | .error failure d => ⟨.broken failure, d.events, d.files⟩

/-- The files that a run leaves with another text than it found, under their paths from the current
directory. -/
def Report.written (r : Report) (before : Files.Tree) : List (String × String) :=
  r.files.entries.filterMap fun (parts, entry) =>
    match entry with
    | .file (.text s) =>
      if before.bytes? parts = some s.toUTF8.toList ∨ ¬ before.here <+: parts then none
      else some (String.intercalate "/" (parts.drop before.here.length), s)
    | _ => none

end Promptsmith.Command
