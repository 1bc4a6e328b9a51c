import Mathlib
import Promptsmith.Proofs.Template.Scanning

/-!
# Tags as they are written

A tag can be written in several ways: white space may stand inside its braces, and several spaces
may follow the keyword of an opening directive. Each of them is read as a pair where it stands,
whatever follows, and the pair as the tag.
-/
namespace Promptsmith.Template

open Promptsmith.Text

/-! ### Characters of names -/

/-- The codes of white space. -/
def blankCodes : List Nat := [
  0x09, 0x0A, 0x0B, 0x0C, 0x0D, 0x1C, 0x1D, 0x1E, 0x1F, 0x20, 0x85, 0xA0, 0x1680, 0x2000, 0x2001,
  0x2002, 0x2003, 0x2004, 0x2005, 0x2006, 0x2007, 0x2008, 0x2009, 0x200A, 0x2028, 0x2029, 0x202F,
  0x205F, 0x3000]

theorem mem_blankCodes {c : Char} (h : isBlank c) : c.toNat ∈ blankCodes := by
  simp only [isBlank, isSpace, Bool.or_eq_true, Bool.and_eq_true, decide_eq_true_eq,
    beq_iff_eq] at h
  simp only [blankCodes, List.mem_cons, List.not_mem_nil, or_false]
  omega

/-- A character that may occur in a name. -/
def isNameChar (c : Char) : Bool :=
  isNameStart c || isNamePart c

theorem isBlank_of_isNameChar {c : Char} (h : isNameChar c) : isBlank c = false := by
  have hall : ∀ n ∈ blankCodes, isNameChar (Char.ofNat n) = false := by decide +kernel
  by_contra hblank
  have hc := hall c.toNat (mem_blankCodes (by simpa using hblank))
  rw [Char.ofNat_toNat, h] at hc
  exact absurd hc (by decide)

theorem isNameChar_of_mem {name : List Char} (h : isName name) : ∀ c ∈ name, isNameChar c := by
  intro c hmem
  cases name with
  | nil => simp at hmem
  | cons d r =>
    rw [isName, Bool.and_eq_true] at h
    rw [isNameChar, Bool.or_eq_true]
    rcases List.mem_cons.mp hmem with rfl | hmem
    · exact Or.inl h.1
    · exact Or.inr (List.all_eq_true.mp h.2 c hmem)

theorem isNameChar_of_mem_keyword (k : BlockKind) : ∀ c ∈ k.keyword.toList, isNameChar c := by
  intro c hmem
  simp [isNameChar, isNamePart, (isWord_keyword k c hmem).1]

theorem ne_nil_of_isName {name : List Char} (h : isName name) : name ≠ [] := by
  rintro rfl
  simp [isName] at h

theorem keyword_ne_nil (k : BlockKind) : k.keyword.toList ≠ [] := by
  cases k <;> decide

theorem plain_of_isNameChar {c : Char} (h : isNameChar c) : c ≠ '}' ∧ c ≠ '\n' := by
  constructor
  · rintro rfl
    exact absurd h (by decide)
  · rintro rfl
    exact absurd h (by decide)

/-! ### What a pair holds -/

/-- A text that a pair holds as it is: no closing brace and no line break is in it, and it starts
and ends with other characters than white space. -/
structure Held (inner : List Char) : Prop where
  plain : ∀ c ∈ inner, c ≠ '}' ∧ c ≠ '\n'
  starts : ∃ c r, inner = c :: r ∧ isBlank c = false
  ends : ∃ r c, inner = r ++ [c] ∧ isBlank c = false

theorem Held.of_names {name : List Char} (hne : name ≠ []) (h : ∀ c ∈ name, isNameChar c) :
    Held name := by
  refine ⟨fun c hc => plain_of_isNameChar (h c hc), ?_, ?_⟩
  · obtain ⟨c, r, rfl⟩ := List.exists_cons_of_ne_nil hne
    exact ⟨c, r, rfl, isBlank_of_isNameChar (h c (by simp))⟩
  · exact ⟨name.dropLast, name.getLast hne, (List.dropLast_append_getLast hne).symm,
      isBlank_of_isNameChar (h _ (List.getLast_mem hne))⟩

/-- A sigil may stand in front. -/
theorem Held.cons {inner : List Char} (h : Held inner) {c : Char} (hc : c ≠ '}' ∧ c ≠ '\n')
    (hblank : isBlank c = false) {front : List Char}
    (hfront : ∀ d ∈ front, d ≠ '}' ∧ d ≠ '\n') : Held (c :: (front ++ inner)) := by
  obtain ⟨r, d, hr, hd⟩ := h.ends
  refine ⟨?_, ⟨c, front ++ inner, rfl, hblank⟩, c :: (front ++ r), d, by simp [hr], hd⟩
  intro e he
  rcases List.mem_cons.mp he with rfl | he
  · exact hc
  · rcases List.mem_append.mp he with he | he
    · exact hfront e he
    · exact h.plain e he

theorem splitAtClosing_cons {c : Char} (hc : c ≠ '}') (s : List Char) :
    splitAtClosing (c :: s) =
      (splitAtClosing s).map fun (before, after) => (c :: before, after) := by
  rw [splitAtClosing]
  intro _ h _
  exact hc h

/-- Characters before the closing braces that are none of them change nothing. -/
theorem splitAtClosing_append {s : List Char} (h : '}' ∉ s) (t : List Char) :
    splitAtClosing (s ++ t) =
      (splitAtClosing t).map fun (before, after) => (s ++ before, after) := by
  induction s with
  | nil => simp
  | cons c s ih =>
    rw [List.mem_cons, not_or] at h
    rw [List.cons_append, splitAtClosing_cons (Ne.symm h.1), ih h.2, Option.map_map]
    rfl

theorem splitAtClosing_closing {s : List Char} (h : '}' ∉ s) (rest : List Char) :
    splitAtClosing (s ++ '}' :: '}' :: rest) = some (s, rest) := by
  simp [splitAtClosing_append h, splitAtClosing]

theorem trimEnd_append {s blanks : List Char} (h : ∃ r c, s = r ++ [c] ∧ isBlank c = false)
    (hblanks : ∀ c ∈ blanks, isBlank c) : trimEnd (s ++ blanks) = s := by
  obtain ⟨r, c, rfl, hc⟩ := h
  rw [trimEnd, dropEndWhile_eq_rdropWhile, List.rdropWhile, List.reverse_append,
    List.dropWhile_append_of_pos (by simpa using hblanks)]
  simp [hc]

/-- A pair is read where it stands, whatever follows it. -/
theorem Held.read? {inner before after : List Char} (h : Held inner)
    (hbefore : ∀ c ∈ before, isBlank c) (hafter : ∀ c ∈ after, isBlank c) (rest : List Char) :
    Pair.read? ('{' :: '{' :: (before ++ inner ++ after ++ ['}', '}']) ++ rest) =
      some (⟨'{' :: '{' :: (before ++ inner ++ after ++ ['}', '}']), inner⟩, rest) := by
  obtain ⟨c, r, hinner, hc⟩ := h.starts
  have hspan := span_append hbefore hc (r ++ (after ++ '}' :: '}' :: rest))
  have hbraceless : '}' ∉ inner ++ after := by
    intro hmem
    rcases List.mem_append.mp hmem with hmem | hmem
    · exact (h.plain _ hmem).1 rfl
    · exact absurd (hafter _ hmem) (by decide)
  have hsplit := splitAtClosing_closing hbraceless rest
  have htrim := trimEnd_append h.ends hafter
  have hline : '\n' ∉ inner := fun hmem => (h.plain _ hmem).2 rfl
  have htext : before ++ inner ++ after ++ ['}', '}'] ++ rest =
      before ++ c :: (r ++ (after ++ '}' :: '}' :: rest)) := by simp [hinner]
  have hdrop : (before ++ inner ++ after ++ ['}', '}'] ++ rest).dropWhile isBlank =
      inner ++ after ++ '}' :: '}' :: rest := by
    rw [htext, hspan.2, hinner]
    simp
  have htake : (before ++ inner ++ after ++ ['}', '}'] ++ rest).takeWhile isBlank = before := by
    rw [htext, hspan.1]
  simp only [List.cons_append]
  rw [Pair.read?, Pair.close?, hdrop, hsplit, htake]
  simp only [htrim, if_neg hline]
  simp

/-! ### Ways to write a tag -/

/-- What the pair of a tag may hold. -/
inductive Written : Tag → List Char → Prop
  | named {name : List Char} (h : isName name) :
      Written (.variable (String.ofList name)) name
  | opening (kind : BlockKind) {spaces name : List Char} (hspaces : ∀ c ∈ spaces, c = ' ')
      (h : isName name) :
      Written (.opening kind (String.ofList name))
        ('#' :: (kind.keyword.toList ++ ' ' :: (spaces ++ name)))
  | closing (kind : BlockKind) : Written (.closing kind) ('/' :: kind.keyword.toList)

theorem Written.held {tag : Tag} {inner : List Char} (h : Written tag inner) : Held inner := by
  cases h with
  | named h => exact .of_names (ne_nil_of_isName h) (isNameChar_of_mem h)
  | @opening kind spaces name hspaces h =>
    have hname : Held name := .of_names (ne_nil_of_isName h) (isNameChar_of_mem h)
    have hfront : ∀ c ∈ kind.keyword.toList ++ ' ' :: spaces, c ≠ '}' ∧ c ≠ '\n' := by
      intro c hc
      rcases List.mem_append.mp hc with hc | hc
      · exact plain_of_isNameChar (isNameChar_of_mem_keyword kind c hc)
      · rcases List.mem_cons.mp hc with rfl | hc
        · decide
        · rw [hspaces c hc]
          decide
    simpa using hname.cons (c := '#') (by decide) (by decide) hfront
  | closing kind =>
    have hkeyword : Held kind.keyword.toList :=
      .of_names (keyword_ne_nil kind) (isNameChar_of_mem_keyword kind)
    have hfront : ∀ c ∈ ([] : List Char), c ≠ '}' ∧ c ≠ '\n' := by simp
    exact hkeyword.cons (c := '/') (by decide) (by decide) hfront

theorem trim_name {spaces name : List Char} (hspaces : ∀ c ∈ spaces, c = ' ') (h : isName name) :
    trim (spaces ++ name) = name := by
  have hheld : Held name := .of_names (ne_nil_of_isName h) (isNameChar_of_mem h)
  obtain ⟨c, r, hname, hc⟩ := hheld.starts
  have hblanks : ∀ d ∈ spaces, isBlank d := by
    intro d hd
    rw [hspaces d hd]
    decide
  have hdrop : (spaces ++ name).dropWhile isBlank = name := by
    rw [hname, (span_append hblanks hc r).2]
  have htrim : trimEnd (name ++ []) = name := trimEnd_append hheld.ends (by simp)
  rw [List.append_nil] at htrim
  rw [trim, trimStart, hdrop, htrim]

/-- What is written for a tag is read as the tag. -/
theorem Written.read {tag : Tag} {inner : List Char} (h : Written tag inner) :
    Tag.read inner = .ok (some tag) := by
  cases h with
  | named h =>
    have hstart : inner.head? ≠ some '#' ∧ inner.head? ≠ some '/' := by
      constructor
      · intro hhead
        have hc := isNameChar_of_mem h '#' (List.mem_of_mem_head? hhead)
        exact absurd hc (by decide)
      · intro hhead
        have hc := isNameChar_of_mem h '/' (List.mem_of_mem_head? hhead)
        exact absurd hc (by decide)
    rw [(read_plain hstart.1 hstart.2).2, if_pos h]
  | @opening kind spaces name hspaces h =>
    have htrim := trim_name hspaces h
    rw [read_spaced kind (spaces ++ name) (by rwa [htrim]), htrim]
  | closing kind => cases kind <;> decide

/-- A tag with its braces, where white space may stand beside what they hold. -/
inductive Markup (tag : Tag) : List Char → Prop
  | mk {inner before after : List Char} (h : Written tag inner)
      (hbefore : ∀ c ∈ before, isBlank c) (hafter : ∀ c ∈ after, isBlank c) :
      Markup tag ('{' :: '{' :: (before ++ inner ++ after ++ ['}', '}']))

/-- A written tag is read where it stands, whatever follows it. -/
theorem Markup.read? {tag : Tag} {source : List Char} (h : Markup tag source) :
    ∃ inner, Tag.read inner = .ok (some tag) ∧
      ∀ rest, Pair.read? (source ++ rest) = some (⟨source, inner⟩, rest) := by
  obtain ⟨h, hbefore, hafter⟩ := h
  exact ⟨_, h.read, h.held.read? hbefore hafter⟩

end Promptsmith.Template
