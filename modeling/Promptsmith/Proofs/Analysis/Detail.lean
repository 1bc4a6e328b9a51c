import Promptsmith.Proofs.Analysis.Merging

/-!
# More detail

A keyword is found where it stands in a text with no joining character beside it. It stands so in a
longer text as well, if the character next to the old text joins nothing. So a description that goes
on loses none of its features and technologies.
-/
namespace Promptsmith

namespace Text

/-! ### Whole keywords -/

/-- The keyword stands in the text, and no joining character touches it. -/
def StandsIn (joins : Char → Bool) (keyword s : List Char) : Prop :=
  ∃ before after, s = before ++ keyword ++ after ∧
    (∀ c ∈ before.getLast?, joins c = false) ∧ ∀ c ∈ after.head?, joins c = false

variable {joins : Char → Bool} {keyword : List Char}

theorem isFree_iff {o : Option Char} : isFree joins o ↔ ∀ c ∈ o, joins c = false := by
  cases o <;> simp [isFree]

theorem standsWhole_iff {previous : Option Char} {s : List Char} :
    standsWhole joins keyword previous s ↔
      isFree joins previous ∧ ∃ after, s = keyword ++ after ∧ isFree joins after.head? := by
  unfold standsWhole
  rw [Bool.and_eq_true, Bool.and_eq_true, List.isPrefixOf_iff_prefix]
  constructor
  · rintro ⟨⟨⟨after, rfl⟩, hprevious⟩, hafter⟩
    rw [List.drop_left] at hafter
    exact ⟨hprevious, after, rfl, hafter⟩
  · rintro ⟨hprevious, after, rfl, hafter⟩
    rw [List.drop_left]
    exact ⟨⟨List.prefix_append keyword after, hprevious⟩, hafter⟩

/-- The character in front of the rest of a text counts where nothing stands before the keyword. -/
theorem foundFrom_iff (hkeyword : keyword ≠ []) {previous : Option Char} {s : List Char} :
    foundFrom joins keyword previous s ↔ ∃ before after, s = before ++ keyword ++ after ∧
      isFree joins (before.getLast?.or previous) ∧ isFree joins after.head? := by
  induction s generalizing previous with
  | nil =>
    constructor
    · nofun
    · rintro ⟨before, after, heq, -⟩
      simp [hkeyword] at heq
  | cons c r ih =>
    rw [foundFrom, Bool.or_eq_true, standsWhole_iff, ih]
    constructor
    · rintro (⟨hprevious, after, heq, hafter⟩ | ⟨before, after, rfl, hbefore, hafter⟩)
      · exact ⟨[], after, heq, hprevious, hafter⟩
      · exact ⟨c :: before, after, rfl, by simpa [List.getLast?_cons] using hbefore, hafter⟩
    · rintro ⟨before, after, heq, hbefore, hafter⟩
      cases before with
      | nil => exact .inl ⟨hbefore, after, heq, hafter⟩
      | cons d before =>
        obtain ⟨rfl, rfl⟩ := List.cons.inj heq
        exact .inr ⟨before, after, rfl, by simpa [List.getLast?_cons] using hbefore, hafter⟩

theorem containsWhole_iff (hkeyword : keyword ≠ []) {s : List Char} :
    containsWhole joins keyword s ↔ StandsIn joins keyword s := by
  unfold containsWhole StandsIn
  rw [foundFrom_iff hkeyword]
  simp only [Option.or_none, isFree_iff]

section

variable {a b : List Char} {c : Char}

/-- A text that goes on after a character that does not join. -/
theorem StandsIn.append_right (h : StandsIn joins keyword a) (hc : joins c = false) :
    StandsIn joins keyword (a ++ c :: b) := by
  obtain ⟨before, after, rfl, hbefore, hafter⟩ := h
  refine ⟨before, after ++ c :: b, by simp, hbefore, ?_⟩
  cases after with
  | nil => simpa using hc
  | cons d after => simpa using hafter

theorem StandsIn.append_left (h : StandsIn joins keyword b) (hc : joins c = false) :
    StandsIn joins keyword (a ++ c :: b) := by
  obtain ⟨before, after, rfl, hbefore, hafter⟩ := h
  refine ⟨a ++ c :: before, after, by simp, ?_, hafter⟩
  cases hlast : before.getLast? with
  | none => simpa [List.getLast?_cons, hlast] using hc
  | some d =>
    rw [hlast] at hbefore
    simpa [List.getLast?_cons, hlast] using hbefore

end

end Text

namespace Analysis

/-! ### Tables -/

variable {table : List (String × List String)}

/-- The entry has a keyword that stands in the text apart from lower-case letters and digits. -/
def Speaks (text : List Char) (entry : String × List String) : Prop :=
  ∃ keyword ∈ entry.2, Text.StandsIn Text.isLowerAlnum keyword.toList text

/-- What is found in a text: the names of the entries that speak, in the order of the table, each
once. -/
structure Finds (table : List (String × List String)) (text : List Char) (names : List String) :
    Prop where
  mem_iff : ∀ name, name ∈ names ↔ ∃ entry ∈ table, entry.1 = name ∧ Speaks text entry
  ordered : names.Sublist (table.map (·.1))
  nodup : names.Nodup

theorem mentionsAny_iff {text : List Char} {entry : String × List String}
    (hkeywords : ∀ keyword ∈ entry.2, keyword ≠ "") :
    mentionsAny text entry.2 ↔ Speaks text entry := by
  unfold mentionsAny Speaks
  rw [List.any_eq_true]
  refine exists_congr fun keyword => and_congr_right fun hmem => ?_
  have hne : keyword.toList ≠ [] := by
    intro hnil
    exact hkeywords keyword hmem (String.toList_eq_nil_iff.mp hnil)
  exact Text.containsWhole_iff hne

theorem finds_found (hkeywords : ∀ entry ∈ table, ∀ keyword ∈ entry.2, keyword ≠ "")
    (hnames : (table.map (·.1)).Nodup) (text : List Char) :
    Finds table text (found table text) where
  mem_iff name := by
    simp only [found, List.mem_map, List.mem_filter]
    refine exists_congr fun entry => ?_
    constructor
    · rintro ⟨⟨hentry, hmentions⟩, hname⟩
      exact ⟨hentry, hname, (mentionsAny_iff (hkeywords entry hentry)).mp hmentions⟩
    · rintro ⟨hentry, hname, hspeaks⟩
      exact ⟨⟨hentry, (mentionsAny_iff (hkeywords entry hentry)).mpr hspeaks⟩, hname⟩
  ordered := found_sublist table text
  nodup := (found_sublist table text).nodup hnames

theorem finds_featuresIn (text : List Char) : Finds featureKeywords text (featuresIn text) :=
  finds_found (by decide +kernel) (by decide +kernel) text

theorem finds_technologiesIn (text : List Char) : Finds techKeywords text (technologiesIn text) :=
  finds_found (by decide +kernel) (by decide +kernel) text

theorem Finds.subset {text text' : List Char} {names names' : List String}
    (h : Finds table text names) (h' : Finds table text' names')
    (hkept : ∀ entry, Speaks text entry → Speaks text' entry) : names ⊆ names' := by
  intro name hname
  obtain ⟨entry, hentry, hfirst, hspeaks⟩ := (h.mem_iff name).mp hname
  exact (h'.mem_iff name).mpr ⟨entry, hentry, hfirst, hkept entry hspeaks⟩

section

variable {a b : List Char} {c : Char} {entry : String × List String}

theorem Speaks.append_right (h : Speaks a entry) (hc : Text.isLowerAlnum c = false) :
    Speaks (a ++ c :: b) entry := by
  obtain ⟨keyword, hmem, hstands⟩ := h
  exact ⟨keyword, hmem, hstands.append_right hc⟩

theorem Speaks.append_left (h : Speaks b entry) (hc : Text.isLowerAlnum c = false) :
    Speaks (a ++ c :: b) entry := by
  obtain ⟨keyword, hmem, hstands⟩ := h
  exact ⟨keyword, hmem, hstands.append_left hc⟩

end

/-- Two texts with a character between them that is neither a lower-case letter nor a digit have
together all features and technologies that they have apart. -/
theorem found_append (a b : List Char) {c : Char} (hc : Text.isLowerAlnum c = false) :
    featuresIn a ⊆ featuresIn (a ++ c :: b) ∧ featuresIn b ⊆ featuresIn (a ++ c :: b) ∧
      technologiesIn a ⊆ technologiesIn (a ++ c :: b) ∧
      technologiesIn b ⊆ technologiesIn (a ++ c :: b) ∧
      ∀ text, Finds featureKeywords text (featuresIn text) ∧
        Finds techKeywords text (technologiesIn text) := by
  refine ⟨?_, ?_, ?_, ?_, fun text => ⟨finds_featuresIn text, finds_technologiesIn text⟩⟩
  · exact (finds_featuresIn a).subset (finds_featuresIn _) fun _ h => h.append_right hc
  · exact (finds_featuresIn b).subset (finds_featuresIn _) fun _ h => h.append_left hc
  · exact (finds_technologiesIn a).subset (finds_technologiesIn _) fun _ h => h.append_right hc
  · exact (finds_technologiesIn b).subset (finds_technologiesIn _) fun _ h => h.append_left hc

/-- A capital letter, which no description in lower case holds, sets texts apart too. -/
theorem found_append_capital :
    let a := "mail, next.js".toList
    let b := "react with sign up".toList
    Text.isLowerAlnum 'X' = false ∧ featuresIn a = ["email"] ∧ featuresIn b = ["auth"] ∧
      featuresIn a ⊆ featuresIn (a ++ 'X' :: b) ∧ featuresIn b ⊆ featuresIn (a ++ 'X' :: b) ∧
      technologiesIn a ⊆ technologiesIn (a ++ 'X' :: b) ∧
      technologiesIn b ⊆ technologiesIn (a ++ 'X' :: b) := by
  intro a b
  have hc : Text.isLowerAlnum 'X' = false := by decide
  obtain ⟨hleft, hright, htechLeft, htechRight, -⟩ := found_append a b hc
  exact ⟨hc, by decide +kernel, by decide +kernel, hleft, hright, htechLeft, htechRight⟩

end Analysis

end Promptsmith
