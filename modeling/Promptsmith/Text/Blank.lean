/-!
# White space, parts and lines

`isSpace` is the white space of the Unicode standard. `isBlank` adds the four information
separators, and is what tags, words and names are cut and trimmed by. Splitting at separators keeps
every part, also an empty one, so joining with one separator undoes it. Files are read with every
line ending turned into a line feed, and places in a text are reported by line and column.
-/
namespace Promptsmith.Text

def isSpace (c : Char) : Bool :=
  let n := c.toNat
  (0x09 ≤ n && n ≤ 0x0D) || n == 0x20 || n == 0x85 || n == 0xA0 || n == 0x1680 ||
    (0x2000 ≤ n && n ≤ 0x200A) || n == 0x2028 || n == 0x2029 || n == 0x202F || n == 0x205F ||
    n == 0x3000

def isBlank (c : Char) : Bool :=
  isSpace c || (0x1C ≤ c.toNat && c.toNat ≤ 0x1F)

/-- A space or a tab: what may stand between a line's edge and a tag alone on it. -/
def isIndent (c : Char) : Bool :=
  c == ' ' || c == '\t'

/-- Drops the longest suffix of characters with property `p`. -/
def dropEndWhile (p : Char → Bool) : List Char → List Char
  | [] => []
  | c :: r =>
    match dropEndWhile p r with
    | [] => if p c then [] else [c]
    | d :: t => c :: d :: t

@[simp] theorem dropEndWhile_nil (p : Char → Bool) : dropEndWhile p [] = [] := rfl

def trimStart (s : List Char) : List Char := s.dropWhile isBlank
def trimEnd (s : List Char) : List Char := dropEndWhile isBlank s
def trim (s : List Char) : List Char := trimEnd (trimStart s)

/-- Trims by the white space of the standard alone. -/
def trimSpace (s : List Char) : List Char := dropEndWhile isSpace (s.dropWhile isSpace)

/-- The longest suffix of characters with property `p`. -/
def endWhile (p : Char → Bool) (s : List Char) : List Char :=
  s.drop (dropEndWhile p s).length

theorem dropEndWhile_prefix (p : Char → Bool) (s : List Char) : dropEndWhile p s <+: s := by
  induction s with
  | nil => exact List.prefix_rfl
  | cons c r ih =>
    rw [dropEndWhile]
    split
    · split
      · exact List.nil_prefix
      · exact ⟨r, rfl⟩
    · next d t h =>
      rw [h] at ih
      exact List.prefix_cons_inj c |>.2 ih

/-- Nothing is lost by cutting off a suffix. -/
@[simp] theorem dropEndWhile_append_endWhile (p : Char → Bool) (s : List Char) :
    dropEndWhile p s ++ endWhile p s = s := by
  obtain ⟨t, ht⟩ := dropEndWhile_prefix p s
  have h : endWhile p s = t := by
    rw [endWhile]
    exact (congrArg (List.drop _) ht.symm).trans (by simp)
  rw [h, ht]

/-- Counts the words: the maximal runs without white space. `fresh` says that a word may start. -/
def countWords (fresh : Bool) : List Char → Nat
  | [] => 0
  | c :: r =>
    if isBlank c then countWords true r
    else (if fresh then 1 else 0) + countWords false r

/-- The words of a text, counted. -/
def wordCount (s : List Char) : Nat := countWords true s

/-! ### Parts -/

def splitAt (isSeparator : Char → Bool) : List Char → List (List Char)
  | [] => [[]]
  | c :: r =>
    if isSeparator c then [] :: splitAt isSeparator r
    else
      match splitAt isSeparator r with
      | [] => [[c]]
      | part :: parts => (c :: part) :: parts

theorem splitAt_ne_nil (isSeparator : Char → Bool) (s : List Char) :
    splitAt isSeparator s ≠ [] := by
  cases s with
  | nil => simp [splitAt]
  | cons c r =>
    rw [splitAt]
    split
    · simp
    · split <;> simp

/-- Trims a string by white space. -/
def trimmed (s : String) : String :=
  String.ofList (trim s.toList)

/-- Splits a string and trims its parts. -/
def splitTrimmed (isSeparator : Char → Bool) (s : String) : List String :=
  (splitAt isSeparator s.toList).map fun part => String.ofList (trim part)

/-- The items of a comma-separated text: trimmed, blank ones left out. -/
def items (s : String) : List String :=
  (splitTrimmed (· == ',') s).filter (· ≠ "")

/-! ### Lines -/

/-- Turns each CR LF and each lone CR into a line feed. -/
def unifyLines : List Char → List Char
  | [] => []
  | '\r' :: '\n' :: r => '\n' :: unifyLines r
  | c :: r => (if c = '\r' then '\n' else c) :: unifyLines r

theorem unifyLines_of_not_mem {s : List Char} (h : '\r' ∉ s) : unifyLines s = s := by
  fun_induction unifyLines s with
  | case1 => rfl
  | case2 r ih => simp at h
  | case3 c r _ ih =>
    simp only [List.mem_cons, not_or] at h
    rw [ih h.2, if_neg (Ne.symm h.1)]

/-- A line and a column, both counted from one. -/
structure Place where
  line : Nat
  column : Nat
  deriving DecidableEq, Repr

/-- The place of the character at an offset. -/
def placeOf (s : List Char) (offset : Nat) : Place where
  line := (s.take offset).count '\n' + 1
  column := ((s.take offset).reverse.takeWhile (· ≠ '\n')).length + 1

end Promptsmith.Text
