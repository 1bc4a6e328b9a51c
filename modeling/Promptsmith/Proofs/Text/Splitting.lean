import Promptsmith.Text.Blank

/-!
# Splitting and trimming

A text is split at its separators and nowhere else, so two texts with a separator between them are
split one after the other, and joining the parts gives the text back. What follows without a
separator goes to the last part, where trimming takes it away again if it is white space.
-/
namespace Promptsmith.Text

variable {isSeparator : Char → Bool}

/-! ### Splitting -/

theorem splitAt_of_forall {s : List Char} (h : ∀ c ∈ s, isSeparator c = false) :
    splitAt isSeparator s = [s] := by
  induction s with
  | nil => rfl
  | cons c s ih =>
    rw [List.forall_mem_cons] at h
    rw [splitAt, h.1, if_neg Bool.false_ne_true, ih h.2]

/-- What stands before a separator is split by itself, and so is what stands after it. -/
theorem splitAt_append_cons {c : Char} (hc : isSeparator c = true) (s r : List Char) :
    splitAt isSeparator (s ++ c :: r) = splitAt isSeparator s ++ splitAt isSeparator r := by
  induction s with
  | nil => simp [splitAt, hc]
  | cons d s ih =>
    rw [List.cons_append, splitAt, splitAt, ih]
    split
    · rfl
    · cases hs : splitAt isSeparator s with
      | nil => exact absurd hs (splitAt_ne_nil isSeparator s)
      | cons part parts => rfl

/-- What follows without a separator goes to the last part. -/
theorem exists_splitAt_append (isSeparator : Char → Bool) (s : List Char) :
    ∃ parts last, ∀ t : List Char, (∀ c ∈ t, isSeparator c = false) →
      splitAt isSeparator (s ++ t) = parts ++ [last ++ t] := by
  induction s with
  | nil => exact ⟨[], [], fun t ht => splitAt_of_forall ht⟩
  | cons d s ih =>
    obtain ⟨parts, last, h⟩ := ih
    by_cases hd : isSeparator d = true
    · refine ⟨[] :: parts, last, ?_⟩
      intro t ht
      rw [List.cons_append, splitAt, if_pos hd, h t ht]
      rfl
    · cases parts with
      | nil =>
        refine ⟨[], d :: last, ?_⟩
        intro t ht
        rw [List.cons_append, splitAt, if_neg hd, h t ht]
        rfl
      | cons part parts =>
        refine ⟨(d :: part) :: parts, last, ?_⟩
        intro t ht
        rw [List.cons_append, splitAt, if_neg hd, h t ht]
        rfl

/-- Splitting undoes joining with one separator. -/
theorem splitAt_intercalate {c : Char} (hc : isSeparator c = true) {parts : List (List Char)}
    (hparts : ∀ s ∈ parts, ∀ d ∈ s, isSeparator d = false) (hne : parts ≠ []) :
    splitAt isSeparator ([c].intercalate parts) = parts := by
  induction parts with
  | nil => exact absurd rfl hne
  | cons s parts ih =>
    rw [List.forall_mem_cons] at hparts
    cases parts with
    | nil => rw [List.intercalate_singleton, splitAt_of_forall hparts.1]
    | cons s' parts =>
      rw [List.intercalate_cons_cons, List.append_assoc, List.singleton_append,
        splitAt_append_cons hc, splitAt_of_forall hparts.1, ih hparts.2 (List.cons_ne_nil _ _),
        List.singleton_append]

theorem mem_of_mem_splitAt {s part : List Char} (h : part ∈ splitAt isSeparator s) :
    ∀ c ∈ part, isSeparator c = false := by
  induction s generalizing part with
  | nil =>
    obtain rfl := List.mem_singleton.mp h
    exact nofun
  | cons d s ih =>
    rw [splitAt] at h
    split at h
    · rcases List.mem_cons.mp h with rfl | h
      · exact nofun
      · exact ih h
    · next hd =>
      rw [Bool.not_eq_true] at hd
      cases hs : splitAt isSeparator s with
      | nil => exact absurd hs (splitAt_ne_nil isSeparator s)
      | cons first parts =>
        rw [hs] at h ih
        rcases List.mem_cons.mp h with rfl | h
        · exact List.forall_mem_cons.mpr ⟨hd, ih List.mem_cons_self⟩
        · exact ih (List.mem_cons_of_mem _ h)

/-- Joining the parts undoes splitting at a separator. -/
theorem intercalate_splitAt (c : Char) (s : List Char) :
    [c].intercalate (splitAt (· == c) s) = s := by
  induction s with
  | nil => rfl
  | cons d s ih =>
    obtain ⟨part, parts, hs⟩ := List.exists_cons_of_ne_nil (splitAt_ne_nil (· == c) s)
    rw [hs] at ih
    rw [splitAt, hs]
    split
    · next hd =>
      obtain rfl := beq_iff_eq.mp hd
      rw [List.intercalate_cons_cons, ih]
      rfl
    · cases parts with
      | nil =>
        rw [List.intercalate_singleton] at ih ⊢
        rw [ih]
      | cons next parts =>
        rw [List.intercalate_cons_cons] at ih ⊢
        rw [← ih]
        rfl

theorem intercalate_ofList_splitAt (c : Char) (s : String) :
    (String.singleton c).intercalate ((splitAt (· == c) s.toList).map String.ofList) = s := by
  have hid : String.toList ∘ String.ofList = id := funext fun _ => String.toList_ofList
  rw [← String.toList_inj, String.toList_intercalate, String.toList_singleton, List.map_map, hid,
    List.map_id]
  exact intercalate_splitAt c s.toList

/-! ### Trimming -/

variable {s t : List Char}

theorem dropEndWhile_append {p : Char → Bool} (s : List Char) (h : ∀ c ∈ t, p c) :
    dropEndWhile p (s ++ t) = dropEndWhile p s := by
  induction s with
  | nil =>
    rw [List.nil_append, dropEndWhile_nil]
    induction t with
    | nil => rfl
    | cons c t ih =>
      rw [List.forall_mem_cons] at h
      rw [dropEndWhile, ih h.2]
      exact if_pos h.1
  | cons c s ih => rw [List.cons_append, dropEndWhile, ih, dropEndWhile]

/-- White space at the end is trimmed away. -/
theorem trim_append (s : List Char) (h : ∀ c ∈ t, isBlank c) : trim (s ++ t) = trim s := by
  unfold trim trimEnd trimStart
  rw [List.dropWhile_append]
  split
  · next hs =>
    have hnone : s.dropWhile isBlank = [] := List.isEmpty_iff.mp hs
    have hrest : (t ++ []).dropWhile isBlank = [] := List.dropWhile_append_of_pos h
    rw [List.append_nil] at hrest
    rw [hnone, hrest]
  · exact dropEndWhile_append _ h

/-- White space at the start is trimmed away. -/
theorem trim_prepend (t : List Char) (h : ∀ c ∈ s, isBlank c) : trim (s ++ t) = trim t := by
  rw [trim, trimStart, List.dropWhile_append_of_pos h]
  rfl

theorem dropEndWhile_dropEndWhile (p : Char → Bool) (s : List Char) :
    dropEndWhile p (dropEndWhile p s) = dropEndWhile p s := by
  induction s with
  | nil => rfl
  | cons c s ih =>
    rw [dropEndWhile]
    split
    · split
      · rfl
      · next hc => exact if_neg hc
    · next d t hrest =>
      rw [hrest] at ih
      rw [dropEndWhile, ih]

theorem dropEndWhile_map {p : Char → Bool} {f : Char → Char} (hf : ∀ c, p (f c) = p c)
    (s : List Char) : dropEndWhile p (s.map f) = (dropEndWhile p s).map f := by
  induction s with
  | nil => rfl
  | cons c s ih =>
    rw [List.map_cons, dropEndWhile, ih, dropEndWhile]
    cases dropEndWhile p s with
    | nil =>
      cases hc : p c with
      | true => simp [hf, hc]
      | false => simp [hf, hc]
    | cons d t => rfl

/-- Only characters with the property are dropped. -/
theorem exists_dropEndWhile_append (p : Char → Bool) (s : List Char) :
    ∃ t, s = dropEndWhile p s ++ t ∧ ∀ c ∈ t, p c := by
  induction s with
  | nil => exact ⟨[], rfl, nofun⟩
  | cons c s ih =>
    obtain ⟨t, hs, ht⟩ := ih
    rw [dropEndWhile]
    split
    · next hnil =>
      rw [hnil, List.nil_append] at hs
      split
      · next hc => exact ⟨c :: s, rfl, List.forall_mem_cons.mpr ⟨hc, hs ▸ ht⟩⟩
      · exact ⟨s, rfl, hs ▸ ht⟩
    · next hrest =>
      rw [hrest] at hs
      exact ⟨t, congrArg (c :: ·) hs, ht⟩

/-- Trimming takes white space off both ends. -/
theorem exists_trim_append (s : List Char) : ∃ before after, s = before ++ trim s ++ after ∧
    (∀ c ∈ before, isBlank c) ∧ ∀ c ∈ after, isBlank c := by
  obtain ⟨after, hafter, hblank⟩ := exists_dropEndWhile_append isBlank (s.dropWhile isBlank)
  refine ⟨s.takeWhile isBlank, after, ?_, List.all_eq_true.mp List.all_takeWhile, hblank⟩
  rw [trim, trimEnd, trimStart, List.append_assoc, ← hafter, List.takeWhile_append_dropWhile]

@[simp] theorem trim_trim (s : List Char) : trim (trim s) = trim s := by
  cases htrim : trim s with
  | nil => rfl
  | cons c t =>
    -- What is left begins where the white space in front ends.
    have hbegin : c :: t <+: s.dropWhile isBlank := htrim ▸ dropEndWhile_prefix isBlank _
    obtain ⟨more, hmore⟩ := hbegin
    have hc : isBlank c = false := by
      have hhead := List.head?_dropWhile_not isBlank s
      rwa [← hmore] at hhead
    rw [trim, trimStart, List.dropWhile_cons_of_neg (by simp [hc]), ← htrim]
    exact dropEndWhile_dropEndWhile isBlank _

theorem length_trim_le (s : List Char) : (trim s).length ≤ s.length := by
  obtain ⟨before, after, hs, -, -⟩ := exists_trim_append s
  have hlength := congrArg List.length hs
  rw [List.length_append, List.length_append] at hlength
  omega

/-- A text is left as it is by trimming exactly if white space stands at neither end of it. -/
theorem trim_eq_self_iff : trim s = s ↔
    (∀ c ∈ s.head?, isBlank c = false) ∧ ∀ c ∈ s.getLast?, isBlank c = false := by
  constructor
  · -- White space at an end could be left out first, so the trimmed text would be shorter.
    intro h
    constructor
    · intro c hc
      obtain ⟨t, rfl⟩ := List.head?_eq_some_iff.mp hc
      rw [Bool.eq_false_iff]
      intro hblank
      have hdrop : trim ([c] ++ t) = trim t := trim_prepend t (by simpa using hblank)
      have hle := length_trim_le t
      rw [← hdrop, List.singleton_append, h, List.length_cons] at hle
      omega
    · intro c hc
      obtain ⟨t, rfl⟩ := List.getLast?_eq_some_iff.mp hc
      rw [Bool.eq_false_iff]
      intro hblank
      have hdrop : trim (t ++ [c]) = trim t := trim_append t (by simpa using hblank)
      have hle := length_trim_le t
      rw [← hdrop, h, List.length_append, List.length_singleton] at hle
      omega
  · rintro ⟨hstart, hend⟩
    obtain ⟨before, after, hs, hbefore, hafter⟩ := exists_trim_append s
    have hfront : before = [] := by
      cases before with
      | nil => rfl
      | cons c before =>
        have hc := hstart c (by rw [hs]; rfl)
        rw [hbefore c List.mem_cons_self] at hc
        cases hc
    have hback : after = [] := by
      cases hlast : after.getLast? with
      | none => exact List.getLast?_eq_none_iff.mp hlast
      | some c =>
        have hc := hend c (by rw [hs, List.getLast?_append, hlast]; rfl)
        rw [hafter c (List.mem_of_getLast? hlast)] at hc
        cases hc
    rw [hfront, hback, List.nil_append, List.append_nil] at hs
    exact hs.symm

/-- A text goes on after a separator with further parts; white space before it is not kept. -/
theorem splitTrimmed_append {s blanks more : String} {c : Char} (hc : isSeparator c = true)
    (hblanks : ∀ d ∈ blanks.toList, isBlank d ∧ isSeparator d = false) :
    splitTrimmed isSeparator (s ++ blanks ++ String.singleton c ++ more) =
      splitTrimmed isSeparator s ++ splitTrimmed isSeparator more := by
  have htext : (s ++ blanks ++ String.singleton c ++ more).toList =
      s.toList ++ blanks.toList ++ c :: more.toList := by simp
  obtain ⟨parts, last, hparts⟩ := exists_splitAt_append isSeparator s.toList
  have hplain := hparts [] nofun
  have hpadded := hparts blanks.toList fun d hd => (hblanks d hd).2
  have hlast : trim (last ++ blanks.toList) = trim last :=
    trim_append last fun d hd => (hblanks d hd).1
  rw [List.append_nil, List.append_nil] at hplain
  unfold splitTrimmed
  rw [htext, splitAt_append_cons hc, hpadded, hplain]
  simp [hlast]

end Promptsmith.Text
