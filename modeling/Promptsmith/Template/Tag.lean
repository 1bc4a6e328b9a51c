import Promptsmith.Text.Blank
import Promptsmith.Text.Classes

/-!
# Tags

What a brace pair holds is a variable's name, a directive that opens or closes a block, or no
template syntax at all, which stays in the output. A directive that is not well formed is a fault.
-/
namespace Promptsmith.Template

open Promptsmith.Text

inductive BlockKind where
  | each
  | when
  | unless
  deriving DecidableEq, Repr

def BlockKind.keyword : BlockKind → String
  | .each => "each"
  | .when => "if"
  | .unless => "unless"

def BlockKind.ofKeyword? (word : String) : Option BlockKind :=
  [.each, .when, .unless].find? fun k : BlockKind => k.keyword == word

@[simp] theorem BlockKind.ofKeyword?_keyword (k : BlockKind) : ofKeyword? k.keyword = some k := by
  cases k <;> decide

/-- What the reader of a template finds wrong. -/
inductive Fault where
  | unknownOpening (inner kind : String)
  | nameless (inner : String) (kind : BlockKind)
  | unknownClosing (inner : String)
  | unmatched (kind : BlockKind)
  | crossed (kind opened : BlockKind) (name : String)
  | unclosed (kind : BlockKind) (name : String)
  deriving DecidableEq, Repr

def BlockKind.openingTag (k : BlockKind) (name : String) : String :=
  "#" ++ k.keyword ++ " " ++ name

def BlockKind.closingTag (k : BlockKind) : String :=
  "/" ++ k.keyword

/-- What the faulty pair holds. -/
def Fault.tag : Fault → String
  | .unknownOpening inner _ => inner
  | .nameless inner _ => inner
  | .unknownClosing inner => inner
  | .unmatched kind => kind.closingTag
  | .crossed kind _ _ => kind.closingTag
  | .unclosed kind name => kind.openingTag name

def inBraces (tag : String) : String :=
  "'\x7b\x7b" ++ tag ++ "\x7d\x7d'"

def Fault.message : Fault → String
  | .unknownOpening _ kind => "unknown directive '#" ++ kind ++ "'"
  | .nameless _ kind => "'#" ++ kind.keyword ++ "' needs a name"
  | .unknownClosing inner => "unknown closing tag '" ++ inner ++ "'"
  | .unmatched kind => inBraces kind.closingTag ++ " has no matching opening tag"
  | .crossed kind opened name =>
    inBraces kind.closingTag ++ " closes " ++ inBraces (opened.openingTag name)
  | .unclosed kind name => inBraces (kind.openingTag name) ++ " is never closed"

/-- A fault and the offset of the pair that shows it. -/
structure SyntaxError where
  fault : Fault
  position : Nat
  deriving DecidableEq, Repr

def SyntaxError.message (e : SyntaxError) : String :=
  e.fault.message ++ " (at offset " ++ toString e.position ++ ")"

def isNameStart (c : Char) : Bool :=
  c == '@' || c.isAlpha || c == '_'

def isNamePart (c : Char) : Bool :=
  isWord c || c == '.' || c == '-'

def isName : List Char → Bool
  | [] => false
  | c :: r => isNameStart c && r.all isNamePart

inductive Tag where
  | variable (name : String)
  | opening (kind : BlockKind) (name : String)
  | closing (kind : BlockKind)
  deriving DecidableEq, Repr

def Tag.isBlock : Tag → Bool
  | .variable _ => false
  | _ => true

inductive Sigil where
  | opening
  | closing
  deriving DecidableEq, Repr

/-- The word and the argument of a directive: word characters directly after the sigil, then white
space or the end. -/
def directive? (inner : List Char) : Option (Sigil × List Char × List Char) :=
  let body (sigil : Sigil) (r : List Char) :=
    let word := r.takeWhile isWord
    let after := r.dropWhile isWord
    if word.isEmpty || !(after.head?.all isBlank) then none else some (sigil, word, trim after)
  match inner with
  | '#' :: r => body .opening r
  | '/' :: r => body .closing r
  | _ => none

/-- The tag that a pair holds, if it holds template syntax. -/
def Tag.read (inner : List Char) : Except Fault (Option Tag) :=
  let text := String.ofList inner
  match directive? inner with
  | none => .ok (if isName inner then some (.variable text) else none)
  | some (.opening, word, argument) =>
    match BlockKind.ofKeyword? (String.ofList word) with
    | none => .error (.unknownOpening text (String.ofList word))
    | some kind =>
      if isName argument then .ok (some (.opening kind (String.ofList argument)))
      else .error (.nameless text kind)
  | some (.closing, word, argument) =>
    match BlockKind.ofKeyword? (String.ofList word) with
    | none => .error (.unknownClosing text)
    | some kind =>
      if argument.isEmpty then .ok (some (.closing kind)) else .error (.unknownClosing text)

end Promptsmith.Template
