import Promptsmith.Proofs.Template.Markup
import Promptsmith.Proofs.Text.Hyphens
import Promptsmith.Proofs.Text.Lower
import Promptsmith.Proofs.Text.Pattern

/-!
# File names step by step

A text is trimmed and lowered, what a file name cannot have becomes a hyphen, adjacent hyphens
become one, and those at the ends are stripped. What is left are the plain runs of the whole text in
lower case, joined by hyphens: white space leaves no run, and a sigma none either, whichever form it
takes when the text around it is gone.
-/
namespace Promptsmith.Text

/-! ### Steps -/

/-- Letters, digits, underscores and hyphens. -/
def isKept (c : Char) : Bool :=
  c.isAlphanum || c == '_' || c == '-'

def isHyphen (c : Char) : Bool :=
  c == '-'

def otherPattern : Pattern := [.one (!isKept ·)]

def hyphenPattern : Pattern := [.one isHyphen, .longest isHyphen]

def replaceOthers (s : List Char) : List Char := (otherPattern.cut s).replaced '-'
def collapse (s : List Char) : List Char := (hyphenPattern.cut s).replaced '-'
def strip (s : List Char) : List Char := dropEndWhile isHyphen (s.dropWhile isHyphen)

/-- A file name, made by one rewriting step after the other. -/
def stepwise (name : String) : String :=
  String.ofList (strip (collapse (replaceOthers (lower (trim name.toList)))))

theorem isHyphen_eq_false {c : Char} (h : c ≠ '-') : isHyphen c = false :=
  beq_eq_false_iff_ne.mpr h

theorem dropWhile_hyphen (s : List Char) : ('-' :: s).dropWhile isHyphen = s.dropWhile isHyphen :=
  List.dropWhile_cons_of_pos (by decide)

theorem dropWhile_cons_of_ne {c : Char} (h : c ≠ '-') (s : List Char) :
    (c :: s).dropWhile isHyphen = c :: s :=
  List.dropWhile_cons_of_neg (by simp [isHyphen_eq_false h])

theorem replaceOthers_eq (s : List Char) :
    replaceOthers s = s.map fun c => if isKept c then c else '-' := by
  induction s with
  | nil => rfl
  | cons c s ih =>
    rw [List.map_cons, ← ih, replaceOthers]
    cases hc : isKept c with
    | true =>
      have hnone : otherPattern.read? (c :: s) = none := by simp [otherPattern, Pattern.read?, hc]
      rw [Pattern.cut_of_none hnone, Cutting.replaced_push]
      rfl
    | false =>
      have hsome : otherPattern.read? ([[c]].flatten ++ s) = some ([[c]], s) := by
        simp [otherPattern, Pattern.read?, hc]
      have hcut := Pattern.cut_of_some hsome (List.cons_ne_nil c [])
      exact congrArg (Cutting.replaced '-') hcut

theorem collapse_cons {c : Char} (hc : c ≠ '-') (s : List Char) :
    collapse (c :: s) = c :: collapse s := by
  have hnone : hyphenPattern.read? (c :: s) = none := by
    simp [hyphenPattern, Pattern.read?, isHyphen_eq_false hc]
  rw [collapse, Pattern.cut_of_none hnone, Cutting.replaced_push]
  rfl

/-- A hyphen stands for all that follow it. -/
theorem collapse_hyphen (s : List Char) :
    collapse ('-' :: s) = '-' :: collapse (s.dropWhile isHyphen) := by
  have hrest : Pattern.read? [.longest isHyphen] s =
      some ([s.takeWhile isHyphen], s.dropWhile isHyphen) := by
    rw [Pattern.read?, Pattern.getLast?_ways (x := ([], s.dropWhile isHyphen)) rfl]
    rfl
  have hread : hyphenPattern.read? ('-' :: s) =
      some ([['-'], s.takeWhile isHyphen], s.dropWhile isHyphen) := by
    rw [hyphenPattern, Pattern.read?, if_pos (by decide), hrest]
    rfl
  have htext : '-' :: s =
      [['-'], s.takeWhile isHyphen].flatten ++ s.dropWhile isHyphen := by simp
  rw [collapse]
  rw [htext] at hread ⊢
  rw [Pattern.cut_of_some hread (by simp)]
  rfl

/-! ### Collapsing and stripping -/

section

variable {s : List Char}

theorem dropWhile_collapse_of_head (h : s.head? ≠ some '-') :
    (collapse s).dropWhile isHyphen = collapse s := by
  cases s with
  | nil => rfl
  | cons c s =>
    have hc : c ≠ '-' := fun hc => h (congrArg some hc)
    rw [collapse_cons hc, dropWhile_cons_of_ne hc]

/-- It does not matter whether hyphens in front are stripped before or after collapsing. -/
theorem dropWhile_collapse (s : List Char) :
    (collapse s).dropWhile isHyphen = collapse (s.dropWhile isHyphen) := by
  by_cases h : s.head? = some '-'
  · obtain ⟨s, rfl⟩ := List.head?_eq_some_iff.mp h
    have hstripped : (s.dropWhile isHyphen).head? ≠ some '-' := by
      intro hhead
      have hnot := List.head?_dropWhile_not isHyphen s
      rw [hhead] at hnot
      cases hnot
    rw [collapse_hyphen, dropWhile_hyphen, dropWhile_hyphen, dropWhile_collapse_of_head hstripped]
  · have hkept : s.dropWhile isHyphen = s := by
      cases s with
      | nil => rfl
      | cons c s =>
        have hc : c ≠ '-' := fun hc => h (congrArg some hc)
        rw [dropWhile_cons_of_ne hc]
    rw [hkept, dropWhile_collapse_of_head h]

/-- Of collapsed hyphens those are left at the end that wait for a plain character: after a gap that
is one, unless none follows. -/
theorem dropEndWhile_collapse (hs : ∀ c ∈ s, isPlain c ∨ c = '-') :
    dropEndWhile isHyphen (collapse s) = hyphenate false s ∧
      dropEndWhile isHyphen ('-' :: collapse (s.dropWhile isHyphen)) = hyphenate true s := by
  induction s with
  | nil => exact ⟨rfl, rfl⟩
  | cons c s ih =>
    rw [List.forall_mem_cons] at hs
    obtain ⟨hjoined, hwaiting⟩ := ih hs.2
    rcases hs.1 with hc | rfl
    · have hne := ne_hyphen_of_isPlain hc
      have hstart : dropEndWhile isHyphen (c :: collapse s) = c :: hyphenate false s := by
        rw [dropEndWhile, hjoined]
        cases hyphenate false s with
        | nil => exact if_neg (by simp [isHyphen_eq_false hne])
        | cons d t => rfl
      constructor
      · rw [collapse_cons hne, hstart, hyphenate, if_pos hc]
        rfl
      · rw [dropWhile_cons_of_ne hne, collapse_cons hne, dropEndWhile, hstart, hyphenate, if_pos hc]
        rfl
    · constructor
      · rw [collapse_hyphen, hwaiting, hyphenate, if_neg (by decide)]
      · rw [dropWhile_hyphen, hwaiting, hyphenate, if_neg (by decide)]

theorem strip_collapse (hs : ∀ c ∈ s, isPlain c ∨ c = '-') :
    strip (collapse s) = hyphenated s := by
  have hdrop : s.dropWhile isHyphen = s.dropWhile fun c => !isPlain c := by
    induction s with
    | nil => rfl
    | cons c s ih =>
      rw [List.forall_mem_cons] at hs
      rcases hs.1 with hc | rfl
      · have hne := ne_hyphen_of_isPlain hc
        rw [dropWhile_cons_of_ne hne, List.dropWhile_cons_of_neg (by simp [hc])]
      · rw [dropWhile_hyphen, List.dropWhile_cons_of_pos (by decide), ih hs.2]
  have hrest : ∀ c ∈ s.dropWhile isHyphen, isPlain c ∨ c = '-' := fun c hc =>
    hs c ((List.dropWhile_suffix _).subset hc)
  rw [strip, dropWhile_collapse, (dropEndWhile_collapse hrest).1, hdrop]
  rfl

end

/-! ### What is not plain -/

/-- The character of a file name, or a hyphen. -/
def masked (c : Char) : Char :=
  if isPlain c then c else '-'

theorem isPlain_masked (c : Char) : isPlain (masked c) = isPlain c := by
  unfold masked
  split
  · rfl
  · next hc =>
    rw [Bool.not_eq_true] at hc
    rw [hc]
    rfl

theorem hyphenate_map_masked (gap : Bool) (s : List Char) :
    hyphenate gap (s.map masked) = hyphenate gap s := by
  induction s generalizing gap with
  | nil => rfl
  | cons c s ih =>
    rw [List.map_cons, hyphenate, isPlain_masked, hyphenate, ih, ih]
    split
    · next hc => rw [masked, if_pos hc]
    · rfl

theorem hyphenated_map_masked (s : List Char) : hyphenated (s.map masked) = hyphenated s := by
  have hcomp : (fun c => !isPlain c) ∘ masked = fun c => !isPlain c :=
    funext fun c => congrArg not (isPlain_masked c)
  rw [hyphenated, List.dropWhile_map, hcomp, hyphenate_map_masked]
  rfl

/-- The masked lower-case form of a character: that of a sigma is a hyphen, whatever stands around
it. -/
def maskedLower (c : Char) : List Char :=
  if c = 'Σ' then ['-'] else if c = 'İ' then ['i', '-'] else [masked (lowerChar c)]

theorem map_masked_lowerFrom (before s : List Char) :
    (lowerFrom before s).map masked = s.flatMap maskedLower := by
  induction s generalizing before with
  | nil => rfl
  | cons c s ih =>
    rw [lowerFrom, List.map_append, ih, List.flatMap_cons, maskedLower]
    congr 1
    split
    · unfold sigma
      split <;> decide +kernel
    · split
      · decide +kernel
      · rfl

theorem maskedLower_of_isBlank {c : Char} (h : isBlank c) : maskedLower c = ['-'] := by
  have hall : ∀ n ∈ Template.blankCodes, maskedLower (Char.ofNat n) = ['-'] := by decide +kernel
  have hc := hall c.toNat (Template.mem_blankCodes h)
  rwa [Char.ofNat_toNat] at hc

theorem hyphenate_append_gap {after : List Char} (hafter : ∀ c ∈ after, isPlain c = false)
    (gap : Bool) (s : List Char) : hyphenate gap (s ++ after) = hyphenate gap s := by
  induction s generalizing gap with
  | nil =>
    have hhead : ∀ c ∈ after.head?, isPlain c = false := fun c hc => hafter c (List.mem_of_head? hc)
    cases gap with
    | true => exact hyphenate_eq_nil hafter
    | false => exact (hyphenate_eq_true hhead).trans (hyphenate_eq_nil hafter)
  | cons c s ih => rw [List.cons_append, hyphenate, ih, ih, hyphenate]

/-- Gaps at the ends make no difference. -/
theorem hyphenated_pad {before after : List Char} (hbefore : ∀ c ∈ before, isPlain c = false)
    (hafter : ∀ c ∈ after, isPlain c = false) (s : List Char) :
    hyphenated (before ++ s ++ after) = hyphenated s := by
  rw [hyphenated, hyphenated, List.append_assoc,
    List.dropWhile_append_of_pos (by simpa using hbefore), List.dropWhile_append]
  split
  · next hnil =>
    have hrest : after.dropWhile (fun c => !isPlain c) = [] := by simpa using hafter
    rw [List.isEmpty_iff.mp hnil, hrest]
  · exact hyphenate_append_gap hafter false _

/-- White space at the ends of a text leaves nothing in a file name. -/
theorem hyphenated_lower_trim (s : List Char) :
    hyphenated (lower (trim s)) = hyphenated (lower s) := by
  have hmasked (s : List Char) : hyphenated (lower s) = hyphenated (s.flatMap maskedLower) := by
    rw [← hyphenated_map_masked, lower, map_masked_lowerFrom]
  obtain ⟨before, after, hs, hbefore, hafter⟩ := exists_trim_append s
  have hends {blanks : List Char} (hblanks : ∀ c ∈ blanks, isBlank c) :
      ∀ c ∈ blanks.flatMap maskedLower, isPlain c = false := by
    intro c hc
    obtain ⟨d, hd, hc⟩ := List.mem_flatMap.mp hc
    rw [maskedLower_of_isBlank (hblanks d hd), List.mem_singleton] at hc
    subst hc
    decide
  rw [hmasked, hmasked s]
  conv => rhs; rw [hs]
  rw [List.flatMap_append, List.flatMap_append, hyphenated_pad (hends hbefore) (hends hafter)]

/-! ### Lower case -/

theorem settled_of_isPlain {c : Char} (h : isPlain c) : Settled c := by
  have hascii : c.toNat < 128 := by
    simp only [isPlain, Char.isLower, Char.isDigit, Bool.or_eq_true, Bool.and_eq_true,
      decide_eq_true_eq, UInt32.le_iff_toNat_le, beq_iff_eq] at h
    change ((97 ≤ c.toNat ∧ c.toNat ≤ 122) ∨ 48 ≤ c.toNat ∧ c.toNat ≤ 57) ∨ c = '_' at h
    rcases h with h | rfl
    · omega
    · decide
  have hself : c.toLower = c :=
    forall_ascii (P := fun c => isPlain c → c.toLower = c) (by decide +kernel) hascii h
  exact hself ▸ settled_toLower hascii

theorem settled_hyphen : Settled '-' :=
  settled_toLower (c := '-') (by decide)

/-- A capital letter is not settled, so in lower case only plain characters and hyphens are kept. -/
theorem isKept_of_settled {c : Char} (h : Settled c) : isKept c = (isPlain c || c == '-') := by
  have hself : c.toLower = c := by
    by_cases hascii : c.toNat < 128
    · have hlower := h.lowerChar_eq
      rwa [lowerChar, if_pos hascii] at hlower
    · exact toLower_of_le (Nat.le_of_not_lt hascii)
  have hupper : c.isUpper = false := by
    rw [← hself]
    exact Char.isUpper_toLower_eq_false c
  simp [isKept, isPlain, Char.isAlphanum, Char.isAlpha, hupper]

theorem replaceOthers_of_settled {s : List Char} (h : ∀ c ∈ s, Settled c) :
    replaceOthers s = s.map masked := by
  rw [replaceOthers_eq]
  refine List.map_congr_left ?_
  intro c hc
  rw [isKept_of_settled (h c hc), masked]
  cases isPlain c with
  | true => rfl
  | false =>
    by_cases hhyphen : c = '-'
    · rw [hhyphen]
      rfl
    · rw [if_neg (by simpa using hhyphen), if_neg Bool.false_ne_true]

theorem masked_plain (c : Char) : isPlain (masked c) ∨ masked c = '-' := by
  rw [isPlain_masked, masked]
  cases isPlain c with
  | true => exact .inl rfl
  | false => exact .inr rfl

/-! ### The whole way -/

theorem stepwise_eq (name : String) : stepwise name = fileName name := by
  have hsettled : ∀ c ∈ lower (trim name.toList), Settled c := fun _ => settled_of_mem_lowerFrom
  have hplain : ∀ c ∈ (lower (trim name.toList)).map masked, isPlain c ∨ c = '-' := by
    intro c hc
    obtain ⟨d, -, rfl⟩ := List.mem_map.mp hc
    exact masked_plain d
  rw [stepwise, replaceOthers_of_settled hsettled, strip_collapse hplain, hyphenated_map_masked,
    hyphenated_lower_trim]
  rfl

/-- A file name is kept as it is. -/
theorem fileName_of_isFileName {name : String} (h : IsFileName name.toList) :
    fileName name = name := by
  have hlower : lower name.toList = name.toList :=
    lowerFrom_of_settled fun c hc => (h.plain c hc).elim settled_of_isPlain fun hc =>
      hc ▸ settled_hyphen
  rw [fileName, hlower, h.hyphenated_eq, String.ofList_toList]

/-- A file name consists of the maximal plain runs of a text in lower case, joined by single
hyphens, and is what trimming, replacing, collapsing and stripping yield. It has the shape of a file
name, and exactly the texts of that shape are kept as they are, file names among them. -/
theorem fileName_spec (name : String) :
    (∃ runs, (∀ other, Runs isPlain (lower name.toList) other ↔ other = runs) ∧
      (fileName name).toList = ['-'].intercalate runs) ∧
    stepwise name = fileName name ∧
    IsFileName (fileName name).toList ∧
    fileName (fileName name) = fileName name ∧
    (fileName name = name ↔ IsFileName name.toList) := by
  have htext : (fileName name).toList = hyphenated (lower name.toList) := String.toList_ofList
  have hshape : IsFileName (fileName name).toList := htext ▸ isFileName_hyphenated _
  refine ⟨⟨_, fun _ => runs_iff, ?_⟩, stepwise_eq name, hshape, fileName_of_isFileName hshape, ?_⟩
  · rw [htext, (runs_iff.mpr rfl).hyphenated_eq]
  · constructor
    · intro h
      rwa [h] at hshape
    · exact fileName_of_isFileName

end Promptsmith.Text
