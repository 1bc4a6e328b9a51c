import Promptsmith.Files.Tree
import Promptsmith.Json
import Promptsmith.Record.Checked
import Promptsmith.Text.Quoted
import Promptsmith.Value.Basic

/-!
# Failures

What can keep an operation from answering, apart from the faults that are answers themselves.
-/
namespace Promptsmith

inductive Failure where
  | notIterable (typeName : String)
  | notMapping (record typeName : String)
  | invalid (record : String) (problems : List Problem)
  | noWholeNumber (text : String)
  | tooManyDigits (count : Nat)
  | noField (record field : String)
  | readOnly (record field : String)
  | givenTwice (name : String)
  | file (error : Files.FileError)
  | unreadable (path message : String)
  | markup (message : String)
  | overlong (message : String)
  | nesting (message : String)
  | foreign (message : String)
  deriving DecidableEq, Repr

/-- How many problems a record has, and what they are, one a line. -/
def problemReport (record : String) (problems : List Problem) : String :=
  toString problems.length ++ " validation error" ++ (if problems.length = 1 then "" else "s") ++
    " for " ++ record ++ String.join (problems.map fun p => "\n  " ++ p.message)

/-- A text that should have been a whole number, quoted and cut to two hundred characters. -/
def notWholeMessage (text : String) : String :=
  "invalid literal for int() with base 10: " ++
    String.ofList ((Text.quotedChars text.toList).take 200)

def Failure.message : Failure → String
  | .notIterable typeName => "'" ++ typeName ++ "' object is not iterable"
  | .notMapping record typeName =>
    "src.prompts.models." ++ record ++ "() argument after ** must be a mapping, not " ++ typeName
  | .invalid _ problems => Problem.messages problems
  | .noWholeNumber text => notWholeMessage text
  | .tooManyDigits count => (Json.Defect.tooManyDigits count).message
  | .noField record field => "\"" ++ record ++ "\" object has no field \"" ++ field ++ "\""
  | .readOnly record field =>
    "property '" ++ field ++ "' of '" ++ record ++ "' object has no setter"
  | .givenTwice name => "build_context() got multiple values for argument '" ++ name ++ "'"
  | .file error => error.message
  | .unreadable _ message => message
  | .markup message => message
  | .overlong message => message
  | .nesting message => message
  | .foreign message => message

/-- The message for a user, who is told of each problem. -/
def Failure.report : Failure → String
  | .invalid record problems => problemReport record problems
  | f => f.message

/-- The accepted value of a check, or the failure of the record named. -/
def Checked.toExcept {α : Type} (record : String) : Checked α → Except Failure α
  | .valid a => .ok a
  | .invalid ps => .error (.invalid record ps)

/-- A record from a mapping; nothing else has fields. -/
def Value.makeRecord {α : Type} (record : String) (check : Fields → Checked α) (v : Value) :
    Except Failure α :=
  match v with
  | .map fs => (check fs).toExcept record
  | v => .error (.notMapping record v.typeName)

/-- The values that a sequence yields in turn: items, the characters of a text, or keys. -/
def Value.iterate : Value → Except Failure (List Value)
  | .list xs => .ok xs
  | .tuple xs => .ok xs
  | .map es => .ok (es.map fun e => .text e.1)
  | .text s => .ok (s.toList.map fun c => .text c.toString)
  | .label l => .ok (l.text.toList.map fun c => .text c.toString)
  | v => .error (.notIterable v.typeName)

end Promptsmith
