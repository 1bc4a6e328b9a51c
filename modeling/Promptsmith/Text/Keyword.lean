/-!
# Whole keywords

A keyword stands whole in a text where no joining character touches it on either side. Which
characters join is the caller's choice: ASCII letters and digits for the keyword tables, word
characters for the stronger hints.
-/
namespace Promptsmith.Text

/-- No joining character stands here. -/
def isFree (joins : Char → Bool) (c : Option Char) : Bool :=
  !c.any joins

/-- The keyword stands whole at the start of `s`, where `before` is the character before `s`. -/
def standsWhole (joins : Char → Bool) (keyword : List Char) (before : Option Char)
    (s : List Char) : Bool :=
  keyword.isPrefixOf s && isFree joins before && isFree joins (s.drop keyword.length).head?

/-- Counts whole keywords from the left; `skip` characters still belong to the last one counted. -/
def countFrom (joins : Char → Bool) (keyword : List Char) (before : Option Char) :
    Nat → List Char → Nat
  | _, [] => 0
  | skip + 1, c :: r => countFrom joins keyword (some c) skip r
  | 0, c :: r =>
    if standsWhole joins keyword before (c :: r) then
      countFrom joins keyword (some c) (keyword.length - 1) r + 1
    else countFrom joins keyword (some c) 0 r

/-- The non-overlapping whole occurrences of a keyword, counted from the left. -/
def countWhole (joins : Char → Bool) (keyword s : List Char) : Nat :=
  countFrom joins keyword none 0 s

def foundFrom (joins : Char → Bool) (keyword : List Char) (before : Option Char) :
    List Char → Bool
  | [] => false
  | c :: r =>
    standsWhole joins keyword before (c :: r) || foundFrom joins keyword (some c) r

/-- The keyword stands whole somewhere in the text. -/
def containsWhole (joins : Char → Bool) (keyword s : List Char) : Bool :=
  foundFrom joins keyword none s

/-- The word occurs anywhere in the text, whatever touches it. -/
def occursIn (word : List Char) : List Char → Bool
  | [] => word.isEmpty
  | c :: r => word.isPrefixOf (c :: r) || occursIn word r

end Promptsmith.Text
