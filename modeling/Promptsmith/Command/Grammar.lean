import Promptsmith.Text.Quoted

/-!
# Command-line grammars

A grammar lists the flags of a command and the one argument it may take besides. Arguments are
first marked one by one: what could be a flag is looked up, in full, with its value attached or
shortened as long as one flag alone starts so. After two hyphens alone nothing is a flag.
-/
namespace Promptsmith.Command

/-- A flag asks for help, or takes one value; if there are choices it must be one of them. -/
inductive FlagKind where
  | help
  | value (choices : List String)
  deriving DecidableEq, Repr

structure Flag where
  names : List String
  kind : FlagKind
  deriving DecidableEq, Repr

/-- A flag as messages name it. -/
def Flag.title (f : Flag) : String :=
  String.intercalate "/" f.names

structure Positional where
  name : String
  isOptional : Bool
  deriving DecidableEq, Repr

structure Grammar where
  program : String
  flags : List Flag
  positional : Option Positional
  deriving DecidableEq, Repr

/-- What is wrong with the arguments of a command. -/
inductive UsageFault where
  | ambiguous (argument : String) (candidates : List String)
  | unexpectedValue (flag value : String)
  | missingValue (flag : String)
  | noChoice (argument value : String) (choices : List String)
  | missing (argument : String)
  | unrecognized (arguments : List String)
  deriving DecidableEq, Repr

structure UsageError where
  program : String
  fault : UsageFault
  deriving DecidableEq, Repr

def commaSeparated (ss : List String) : String :=
  String.intercalate ", " ss

def UsageFault.message : UsageFault → String
  | .ambiguous argument candidates =>
    "ambiguous option: " ++ argument ++ " could match " ++ commaSeparated candidates
  | .unexpectedValue flag value =>
    "argument " ++ flag ++ ": ignored explicit argument " ++ Text.quoted value
  | .missingValue flag => "argument " ++ flag ++ ": expected one argument"
  | .noChoice argument value choices =>
    "argument " ++ argument ++ ": invalid choice: " ++ Text.quoted value ++ " (choose from " ++
      commaSeparated (choices.map Text.quoted) ++ ")"
  | .missing argument => "the following arguments are required: " ++ argument
  | .unrecognized arguments =>
    "unrecognized arguments: " ++ String.intercalate " " arguments

def UsageError.message (e : UsageError) : String :=
  e.program ++ ": error: " ++ e.fault.message

/-! ### Marks -/

/-- The value that an argument attaches to its flag: to a long name after an equals sign, to a
letter directly or after an equals sign. -/
inductive Attached where
  | nothing
  | toWord (value : String)
  | toLetter (value : String)
  deriving DecidableEq, Repr

inductive Mark where
  | plain (argument : String)
  | divider
  | flag (f : Flag) (attached : Attached)
  | unknown (argument : String)
  deriving DecidableEq, Repr

/-- Splits at the first equals sign, if there is one. -/
def splitEquals (s : List Char) : List Char × Attached :=
  let name := s.takeWhile (· ≠ '=')
  match s.dropWhile (· ≠ '='), name with
  | [], _ => (name, .nothing)
  | _ :: value, '-' :: '-' :: _ => (name, .toWord (String.ofList value))
  | _ :: value, _ => (name, .toLetter (String.ofList value))

/-- Digits after a hyphen, with or without a point; a final line feed does not count. -/
def looksNegative (s : List Char) : Bool :=
  match s with
  | '-' :: r =>
    let r := if r.getLast? = some '\n' then r.dropLast else r
    let isDigit (c : Char) := (Text.digit? c).isSome
    match r.dropWhile isDigit with
    | [] => !r.isEmpty
    | '.' :: fraction => !fraction.isEmpty && fraction.all isDigit
    | _ => false
  | _ => false

namespace Grammar

/-- The names of all flags in order, each with its flag. -/
def names (g : Grammar) : List (String × Flag) :=
  g.flags.flatMap fun f => f.names.map fun name => (name, f)

def flag? (g : Grammar) (name : List Char) : Option Flag :=
  g.names.lookup (String.ofList name)

/-- The flags that a shortened argument may stand for. -/
def candidates (g : Grammar) (s : List Char) : List (String × Flag × Attached) :=
  match s with
  | '-' :: '-' :: _ =>
    let (stem, attached) := splitEquals s
    (g.names.filter fun (name, _) => stem.isPrefixOf name.toList).map fun (name, f) =>
      (name, f, attached)
  | s =>
    (g.names.filter fun (name, _) => name.toList = s.take 2).map fun (name, f) =>
      (name, f, .toLetter (String.ofList (s.drop 2)))

/-- The mark of an argument that starts with a hyphen and goes on. -/
def markHyphened (g : Grammar) (s : List Char) : Except UsageFault Mark :=
  match g.flag? s, splitEquals s with
  | some f, _ => .ok (.flag f .nothing)
  | none, (name, attached) =>
    match if attached = .nothing then none else g.flag? name with
    | some f => .ok (.flag f attached)
    | none =>
      match g.candidates s with
      | [(_, f, attached)] => .ok (.flag f attached)
      | [] =>
        if looksNegative s || s.contains ' ' then .ok (.plain (String.ofList s))
        else .ok (.unknown (String.ofList s))
      | found => .error (.ambiguous (String.ofList s) (found.map (·.1)))

def mark (g : Grammar) (argument : String) : Except UsageFault Mark :=
  match argument.toList with
  | '-' :: c :: r => g.markHyphened ('-' :: c :: r)
  | _ => .ok (.plain argument)

/-- The marks of all arguments, or the first fault among them. -/
def marks (g : Grammar) : List String → Except UsageFault (List Mark)
  | [] => .ok []
  | argument :: rest =>
    if argument = "--" then .ok (.divider :: rest.map .plain)
    else
      match g.mark argument with
      | .error e => .error e
      | .ok m => (g.marks rest).map (m :: ·)

end Grammar

end Promptsmith.Command
