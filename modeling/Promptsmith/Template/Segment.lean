import Promptsmith.Template.Cut
import Promptsmith.Template.Tag

/-!
# Segments and tokens

A text is the concatenation of its segments. A segment is a stretch of literal text, or a tag with
the margin it owns: a block tag alone on its line owns the line's indentation and what is left of
the line with its break, any other tag owns nothing beside itself.
-/
namespace Promptsmith.Template

open Promptsmith.Text

inductive Lexeme where
  | literal (text : String)
  | tag (tag : Tag)
  deriving DecidableEq, Repr

/-- A lexeme and the offset where its source starts, margin aside. -/
structure Token where
  lexeme : Lexeme
  position : Nat
  deriving DecidableEq, Repr

structure Segment where
  indent : List Char
  source : List Char
  tail : List Char
  token : Token
  deriving DecidableEq, Repr

/-- The stretch of text that a segment owns. -/
def Segment.text (s : Segment) : List Char :=
  s.indent ++ s.source ++ s.tail

/-- The last line of a text, which has no break; the whole text if it has none. -/
def lastLine (s : List Char) : List Char :=
  endWhile (· ≠ '\n') s

/-- The blanks up to the end of the line and its break; the end of the text also ends a line. -/
def lineEnd? (s : List Char) (atEnd : Bool) : Option (List Char) :=
  let blanks := s.takeWhile isIndent
  match s.dropWhile isIndent with
  | '\n' :: _ => some (blanks ++ ['\n'])
  | '\r' :: '\n' :: _ => some (blanks ++ ['\r', '\n'])
  | [] => if atEnd then some blanks else none
  | _ => none

/-- The indentation and the tail of a tag alone on its line, where `before` is the literal text
since the last tag, `fresh` says that it starts on a new line, and `next` follows the tag. -/
def margin? (fresh : Bool) (before : List Char) (next : Cut) : Option (List Char × List Char) :=
  let line := lastLine before
  if line.all isIndent && (fresh || line.length < before.length) then
    (lineEnd? next.lead next.isLast).map (line, ·)
  else none

/-- The segment of a literal text; there is none for the empty text. -/
def literalSegment (position : Nat) (s : List Char) : List Segment :=
  if s.isEmpty then [] else [⟨[], s, [], ⟨.literal (String.ofList s), position⟩⟩]

/-- The segments from the offset `cursor` on: `before` is the literal text since then, and the
first `skip` characters of the cut belong to the last tag. -/
def segmentsFrom (cursor : Nat) (fresh : Bool) (before : List Char) (skip : Nat) :
    Cut → Except SyntaxError (List Segment)
  | .rest text => .ok (literalSegment cursor (before ++ text.drop skip))
  | .pair gap p next =>
    let lead := before ++ gap.drop skip
    let start := cursor + lead.length
    match Tag.read p.inner with
    | .error fault => .error ⟨fault, start⟩
    | .ok none => segmentsFrom cursor fresh (lead ++ p.source) 0 next
    | .ok (some tag) =>
      match if tag.isBlock then margin? fresh lead next else none with
      | some (indent, tail) =>
        (segmentsFrom (start + p.source.length + tail.length) true [] tail.length next).map
          fun rest =>
            literalSegment cursor (lead.take (lead.length - indent.length)) ++
              ⟨indent, p.source, tail, ⟨.tag tag, start⟩⟩ :: rest
      | none =>
        (segmentsFrom (start + p.source.length) false [] 0 next).map fun rest =>
          literalSegment cursor lead ++ ⟨[], p.source, [], ⟨.tag tag, start⟩⟩ :: rest

/-- The segments of a text, or its first malformed tag. -/
def segments (s : List Char) : Except SyntaxError (List Segment) :=
  segmentsFrom 0 true [] 0 (Cut.ofText s)

/-- The tokens of a text, or its first malformed tag. -/
def tokenize (text : String) : Except SyntaxError (List Token) :=
  (segments text.toList).map (·.map Segment.token)

end Promptsmith.Template
