import Promptsmith.Template.Segment

/-!
# The tree of a template

Tokens are nested by a stack of open blocks. A closing tag must name the kind of the innermost open
block, and at the end none may be open.
-/
namespace Promptsmith.Template

inductive Node where
  | literal (text : String)
  | variable (name : String)
  | block (kind : BlockKind) (name : String) (body : List Node)
  deriving Repr

/-- A block that is not closed yet, with the siblings before it. -/
structure OpenBlock where
  kind : BlockKind
  name : String
  position : Nat
  before : List Node
  deriving Repr

/-- Nests tokens into the siblings read so far, inside the open blocks, the innermost first. -/
def nest : List OpenBlock → List Node → List Token → Except SyntaxError (List Node)
  | [], siblings, [] => .ok siblings
  | b :: _, _, [] => .error ⟨.unclosed b.kind b.name, b.position⟩
  | blocks, siblings, t :: ts =>
    match t.lexeme with
    | .literal text => nest blocks (siblings ++ [.literal text]) ts
    | .tag (.variable name) => nest blocks (siblings ++ [.variable name]) ts
    | .tag (.opening kind name) => nest (⟨kind, name, t.position, siblings⟩ :: blocks) [] ts
    | .tag (.closing kind) =>
      match blocks with
      | [] => .error ⟨.unmatched kind, t.position⟩
      | b :: outer =>
        if b.kind = kind then nest outer (b.before ++ [.block b.kind b.name siblings]) ts
        else .error ⟨.crossed kind b.kind b.name, t.position⟩

/-- The tree of a template, or its first fault: malformed tags come before crossed blocks. -/
def parse (text : String) : Except SyntaxError (List Node) :=
  (tokenize text).bind (nest [] [])

end Promptsmith.Template
