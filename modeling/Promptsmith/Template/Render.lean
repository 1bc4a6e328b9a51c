import Promptsmith.Template.Node
import Promptsmith.Value.Text

/-!
# Rendering

A tree is evaluated against named values. Inside a loop the four loop variables stand for the
innermost item and its place; every other name is looked up in the values, also inside a loop.
Names without a value render as nothing, and substituted text is never read as a template.
-/
namespace Promptsmith.Template

/-- The names that a loop gives a meaning to. -/
inductive LoopVariable where
  | this
  | last
  | first
  | index
  deriving DecidableEq, Repr

def LoopVariable.name : LoopVariable → String
  | .this => "this"
  | .last => "@last"
  | .first => "@first"
  | .index => "@index"

def LoopVariable.ofName? (name : String) : Option LoopVariable :=
  [.this, .last, .first, .index].find? fun v : LoopVariable => v.name == name

@[simp] theorem LoopVariable.ofName?_name (v : LoopVariable) : ofName? v.name = some v := by
  cases v <;> decide

/-- One turn of a loop. -/
structure Frame where
  item : Value
  index : Nat
  length : Nat

def Frame.value (f : Frame) : LoopVariable → Value
  | .this => f.item
  | .last => .bool (f.index + 1 == f.length)
  | .first => .bool (f.index == 0)
  | .index => .int f.index

/-- The value of a name; `scopes` holds the turns of the enclosing loops, the innermost first. -/
def lookup (context : Fields) (scopes : List Frame) (name : String) : Value :=
  match LoopVariable.ofName? name with
  | none => context.get name
  | some v => (scopes.head?.map (·.value v)).getD .null

/-- The turns of a loop over some items. -/
def frames (items : List Value) : List Frame :=
  items.mapIdx fun i x => ⟨x, i, items.length⟩

mutual

def Node.render (context : Fields) (scopes : List Frame) : Node → String
  | .literal text => text
  | .variable name => (lookup context scopes name).display
  | .block .each name body =>
    match (lookup context scopes name).items? with
    | none => ""
    | some items => String.join ((frames items).map fun f => renderAll context (f :: scopes) body)
  | .block .when name body =>
    if (lookup context scopes name).truthy then renderAll context scopes body else ""
  | .block .unless name body =>
    if (lookup context scopes name).truthy then "" else renderAll context scopes body

/-- The text of nodes in order. -/
def renderAll (context : Fields) (scopes : List Frame) : List Node → String
  | [] => ""
  | n :: ns => n.render context scopes ++ renderAll context scopes ns

end

/-- The text of a parsed template. -/
def evaluate (nodes : List Node) (context : Fields) : String :=
  renderAll context [] nodes

mutual

/-- The values that a node's text is written with, but for the places in a loop: there are never so
many that one has too many digits. -/
def Node.shown (context : Fields) (scopes : List Frame) : Node → List Value
  | .literal _ => []
  | .variable name =>
    if name = LoopVariable.index.name then [] else [lookup context scopes name]
  | .block .each name body =>
    match (lookup context scopes name).items? with
    | none => []
    | some items => (frames items).flatMap fun f => shownAll context (f :: scopes) body
  | .block .when name body =>
    if (lookup context scopes name).truthy then shownAll context scopes body else []
  | .block .unless name body =>
    if (lookup context scopes name).truthy then [] else shownAll context scopes body

/-- The values that the text of nodes is written with, in order. -/
def shownAll (context : Fields) (scopes : List Frame) : List Node → List Value
  | [] => []
  | n :: ns => n.shown context scopes ++ shownAll context scopes ns

end

/-- The values that the text of a template is written with. -/
def shown (text : String) (context : Fields) : List Value :=
  ((parse text).toOption.map (shownAll context [])).getD []

/-- Reads and evaluates a template. -/
def render (text : String) (context : Fields) : Except SyntaxError String :=
  (parse text).map fun nodes => evaluate nodes context

end Promptsmith.Template
