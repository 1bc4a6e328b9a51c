import Promptsmith.Command.Parsed
import Promptsmith.Vocabulary

/-!
# Invocations

What a list of arguments asks for: a configuration file or none, and one of the four requests. The
arguments before the request's name belong to the program, all after it to the request; what either
leaves over is reported by the program at the end.
-/
namespace Promptsmith.Command

structure GenerateOptions where
  description : String
  archetype : Option Archetype
  name : Option String
  features : Option String
  tech : Option String
  experience : Option Experience
  phase : Option Phase
  feedback : Option String
  output : Option String
  deriving DecidableEq, Repr

inductive Request where
  | generate (options : GenerateOptions)
  | analyze (description : String)
  | preview (hint : String)
  | list
  deriving DecidableEq, Repr

structure Invocation where
  config : Option String
  request : Request
  deriving DecidableEq, Repr

/-- Why there is no invocation. -/
inductive Refusal where
  | help
  | usage (error : UsageError)
  deriving DecidableEq, Repr

def Halt.refusal (program : String) : Halt → Refusal
  | .help => .help
  | .fault f => .usage ⟨program, f⟩

/-! ### Grammars -/

def programName : String := "promptgen"

def helpFlag : Flag := ⟨["-h", "--help"], .help⟩

def configFlag : Flag := ⟨["--config"], .value []⟩

def choicesOf (α : Type) [Vocabulary α] : List String :=
  (Vocabulary.all : List α).map Vocabulary.name

/-- The program's own flags. -/
def programGrammar : Grammar :=
  ⟨programName, [helpFlag, configFlag], none⟩

def generateGrammar : Grammar where
  program := programName ++ " generate"
  flags := [
    helpFlag,
    ⟨["--type"], .value (choicesOf Archetype)⟩,
    ⟨["--name"], .value []⟩,
    ⟨["--features"], .value []⟩,
    ⟨["--tech"], .value []⟩,
    ⟨["--experience"], .value (choicesOf Experience)⟩,
    ⟨["--phase"], .value (choicesOf Phase)⟩,
    ⟨["--feedback"], .value []⟩,
    ⟨["--output", "-o"], .value []⟩]
  positional := some ⟨"description", true⟩

def analyzeGrammar : Grammar :=
  ⟨programName ++ " analyze", [helpFlag], some ⟨"description", false⟩⟩

def previewGrammar : Grammar :=
  ⟨programName ++ " preview", [helpFlag], some ⟨"archetype", false⟩⟩

def listGrammar : Grammar :=
  ⟨programName ++ " list", [helpFlag], none⟩

/-! ### Requests -/

def wordOf? {α : Type} [Vocabulary α] (p : Parsed) (flag : String) : Option α :=
  (p.value? flag).bind Vocabulary.ofName?

def generateOptions (p : Parsed) : GenerateOptions where
  description := p.positional.getD ""
  archetype := wordOf? p "--type"
  name := p.value? "--name"
  features := p.value? "--features"
  tech := p.value? "--tech"
  experience := wordOf? p "--experience"
  phase := wordOf? p "--phase"
  feedback := p.value? "--feedback"
  output := p.value? "--output"

/-- The requests by name: how their arguments are read and what they amount to. -/
def requests : List (String × Grammar × (Parsed → Request)) := [
  ("generate", generateGrammar, fun p => .generate (generateOptions p)),
  ("analyze", analyzeGrammar, fun p => .analyze (p.positional.getD "")),
  ("preview", previewGrammar, fun p => .preview (p.positional.getD "")),
  ("list", listGrammar, fun _ => .list)]

def programFault (fault : UsageFault) : Refusal :=
  .usage ⟨programName, fault⟩

/-- Reads the request of a name with its arguments; `leftOver` is what was left before it. -/
def readRequest (config : Option String) (leftOver : List String) (name : String)
    (arguments : List String) : Except Refusal Invocation :=
  match requests.lookup name with
  | none => .error (programFault (.noChoice "command" name (requests.map (·.1))))
  | some (g, request) =>
    match g.parse arguments with
    | .error halt => .error (halt.refusal g.program)
    | .ok p =>
      match leftOver ++ p.leftOver with
      | [] => .ok ⟨config.filter (· ≠ ""), request p⟩
      | rest => .error (programFault (.unrecognized rest))

def noCommand : Refusal :=
  programFault (.missing "command")

/-- Reads the program's own flags up to the name of the request. -/
def readProgram (config : Option String) (leftOver : List String) :
    List (String × Mark) → Except Refusal Invocation
  | [] => .error noCommand
  | (_, .divider) :: rest =>
    if rest.isEmpty then .error noCommand
    else readRequest config leftOver "--" (rest.map (·.1))
  | (name, .plain _) :: rest => readRequest config leftOver name (rest.map (·.1))
  | (argument, .unknown _) :: rest => readProgram config (leftOver ++ [argument]) rest
  | (_, .flag f attached) :: rest =>
    match f.kind, attached, rest with
    | .help, attached, rest =>
      .error ((haltForHelp programGrammar f (rest.head?.map (·.2)) attached).refusal programName)
    | .value _, .toWord value, rest => readProgram (some (ofAttached value)) leftOver rest
    | .value _, .toLetter value, rest => readProgram (some (ofAttached value)) leftOver rest
    | .value _, .nothing, (value, .plain _) :: rest => readProgram (some value) leftOver rest
    | .value _, .nothing, _ => .error (programFault (.missingValue f.title))

/-- The invocation that a list of arguments stands for. -/
def Invocation.ofArguments (arguments : List String) : Except Refusal Invocation :=
  match programGrammar.marks arguments with
  | .error fault => .error (programFault fault)
  | .ok ms => readProgram none [] (arguments.zip ms)

end Promptsmith.Command
