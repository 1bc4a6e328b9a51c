import Promptsmith.Proofs.Score.Growth
import Promptsmith.Proofs.Text.Lower
import Promptsmith.Proofs.Text.Pattern

/-!
# Stacks in one line

The names of a stack are given one by one, or in one line with a separator between two of them and
white space wherever one likes. Both have the same technologies, since what stands around a name is
trimmed away, and every line is the names joined that a search for separators leaves of it.
-/
namespace Promptsmith.Score

open Text

/-! ### Lines -/

/-- A name without a separator, with white space around it. -/
def Padded (name : String) (s : List Char) : Prop :=
  (∀ c ∈ name.toList, isSeparator c = false) ∧
    ∃ before after, s = before ++ name.toList ++ after ∧ (∀ c ∈ before, isBlank c) ∧
      ∀ c ∈ after, isBlank c

/-- The names stand in the line one after the other, with a separator between two of them. -/
inductive Joined : List String → List Char → Prop
  | none : Joined [] []
  | single {name : String} {s : List Char} (h : Padded name s) : Joined [name] s
  | cons {name next : String} {names : List String} {s line : List Char} {c : Char}
      (h : Padded name s) (hc : isSeparator c) (hrest : Joined (next :: names) line) :
      Joined (name :: next :: names) (s ++ c :: line)

theorem Padded.not_isSeparator {name : String} {s : List Char} (h : Padded name s) :
    ∀ c ∈ s, isSeparator c = false := by
  obtain ⟨hname, before, after, rfl, hbefore, hafter⟩ := h
  intro c hc
  rcases List.mem_append.mp hc with hc | hc
  · rcases List.mem_append.mp hc with hc | hc
    · exact not_isSeparator_of_isBlank (hbefore c hc)
    · exact hname c hc
  · exact not_isSeparator_of_isBlank (hafter c hc)

theorem Padded.trim_eq {name : String} {s : List Char} (h : Padded name s) :
    trim s = trim name.toList := by
  obtain ⟨-, before, after, rfl, hbefore, hafter⟩ := h
  rw [trim_append _ hafter, trim_prepend _ hbefore]

/-- A line of names is split into them, but for the white space around them. -/
theorem Joined.map_trim_splitAt {names : List String} {line : List Char} (h : Joined names line)
    (hne : names ≠ []) :
    (splitAt isSeparator line).map trim = names.map fun name => trim name.toList := by
  induction h with
  | none => exact absurd rfl hne
  | single h =>
    rw [splitAt_of_forall h.not_isSeparator, List.map_singleton, List.map_singleton, h.trim_eq]
  | cons h hc _ ih =>
    rw [splitAt_append_cons hc, splitAt_of_forall h.not_isSeparator, List.singleton_append,
      List.map_cons, List.map_cons, h.trim_eq, ih (List.cons_ne_nil _ _)]

/-- What is recognised depends on the trimmed names only. -/
theorem recognizedAmong_of_map_trim {names names' : List String}
    (h : names.map (fun name => trim name.toList) = names'.map fun name => trim name.toList) :
    recognizedAmong names = recognizedAmong names' := by
  have hlower := congrArg (List.map fun s => String.ofList (lower s)) h
  simp only [List.map_map] at hlower
  unfold recognizedAmong
  exact congrArg (fun names => (names.filter (· ∈ recognized)).foldl addNew []) hlower

theorem Joined.recognizedAmong_eq {names : List String} {line : String}
    (h : Joined names line.toList) :
    recognizedAmong (splitTrimmed isSeparator line) = recognizedAmong names := by
  by_cases hne : names = []
  · subst hne
    generalize hs : line.toList = s at h
    cases h
    rw [String.toList_eq_nil_iff.mp hs]
    decide +kernel
  · refine recognizedAmong_of_map_trim ?_
    rw [← h.map_trim_splitAt hne, splitTrimmed, List.map_map]
    refine List.map_congr_left ?_
    intro part _
    simp

/-! ### What is found in names -/

/-- The text is the name in any case, with white space around it. -/
def Spelling (name s : String) : Prop :=
  ∃ before middle after, s.toList = before ++ middle ++ after ∧ (∀ c ∈ before, isBlank c) ∧
    (∀ c ∈ after, isBlank c) ∧ middle.map Char.toLower = name.toList

/-- What is found are recognised names, each once and where it first occurs, among the given names
in whatever case and with white space around them. -/
structure Recognizes (names found : List String) : Prop where
  mem_iff : ∀ x, x ∈ found ↔ x ∈ recognized ∧ ∃ name ∈ names, normalized name = x
  spelled : ∀ x ∈ recognized, ∀ name ∈ names, Spelling x name → x ∈ found
  nodup : found.Nodup
  ordered : found.Pairwise fun x y =>
    (names.map normalized).idxOf x < (names.map normalized).idxOf y

theorem plain_of_recognized {x : String} (h : x ∈ recognized) :
    trim x.toList = x.toList ∧ ∀ c ∈ x.toList, c.toNat < 128 := by
  have hall : ∀ x ∈ recognized, trim x.toList = x.toList ∧ x.toList.all (·.toNat < 128) := by
    decide +kernel
  simpa using hall x h

/-- A recognised name is normalized to itself in every spelling. -/
theorem Spelling.normalized_eq {x name : String} (h : Spelling x name) (hx : x ∈ recognized) :
    normalized name = x := by
  obtain ⟨before, middle, after, hname, hbefore, hafter, hmiddle⟩ := h
  obtain ⟨htrim, hascii⟩ := plain_of_recognized hx
  have hkept : (trim middle).map Char.toLower = x.toList := by
    rw [← trim_map_toLower, hmiddle, htrim]
  have hlow : ∀ c ∈ trim middle, c.toNat < 128 := by
    intro c hc
    refine toNat_lt_of_toLower (hascii _ ?_)
    rw [← hkept]
    exact List.mem_map_of_mem hc
  rw [normalized, hname, trim_append _ hafter, trim_prepend _ hbefore, lower,
    lowerFrom_of_ascii hlow, hkept, String.ofList_toList]

theorem recognizedAmong_concat (names : List String) (name : String) :
    recognizedAmong (names ++ [name]) =
      if normalized name ∈ recognized then addNew (recognizedAmong names) (normalized name)
      else recognizedAmong names := by
  unfold recognizedAmong
  rw [List.map_append, List.filter_append, List.foldl_append, List.map_singleton]
  split
  · next h => rw [List.filter_cons_of_pos (by simpa using h)]; rfl
  · next h => rw [List.filter_cons_of_neg (by simpa using h)]; rfl

/-- A further name comes last if it is found at all. -/
theorem ordered_recognizedAmong (names : List String) :
    (recognizedAmong names).Pairwise fun x y =>
      (names.map normalized).idxOf x < (names.map normalized).idxOf y := by
  induction names using List.reverseRecOn with
  | nil => exact List.Pairwise.nil
  | append_singleton names name ih =>
    have hold : ∀ x ∈ recognizedAmong names, x ∈ names.map normalized := by
      intro x hx
      exact List.mem_map.mpr (mem_recognizedAmong_iff.mp hx).1
    have hkept : (recognizedAmong names).Pairwise fun x y =>
        ((names ++ [name]).map normalized).idxOf x <
          ((names ++ [name]).map normalized).idxOf y := by
      refine ih.imp_of_mem ?_
      intro x y hx hy hlt
      rwa [List.map_append, List.idxOf_append_of_mem (hold x hx),
        List.idxOf_append_of_mem (hold y hy)]
    rw [recognizedAmong_concat]
    split
    · next hrecognized =>
      unfold addNew
      split
      · exact hkept
      · next hnew =>
        refine List.pairwise_append.mpr ⟨hkept, List.pairwise_singleton _ _, ?_⟩
        intro x hx y hy
        rw [List.mem_singleton] at hy
        subst hy
        have habsent : normalized name ∉ names.map normalized := by
          intro hmem
          exact hnew (mem_recognizedAmong_iff.mpr ⟨List.mem_map.mp hmem, hrecognized⟩)
        rw [List.map_append, List.idxOf_append_of_mem (hold x hx),
          List.idxOf_append_of_notMem habsent]
        have hlt := List.idxOf_lt_length_of_mem (hold x hx)
        omega
    · exact hkept

theorem recognizes_recognizedAmong (names : List String) :
    Recognizes names (recognizedAmong names) where
  mem_iff _ := mem_recognizedAmong_iff.trans and_comm
  spelled _ hx name hname h :=
    mem_recognizedAmong_iff.mpr ⟨⟨name, hname, h.normalized_eq hx⟩, hx⟩
  nodup := nodup_recognizedAmong names
  ordered := ordered_recognizedAmong names

/-! ### Cutting a line -/

/-- A separator with all the white space around it. -/
def separatorPattern : Pattern :=
  [.longest isBlank, .one isSeparator, .longest isBlank]

/-- What is left of a line when it is cut at its separators. -/
def partsOf (line : String) : List String :=
  (separatorPattern.cut line.toList).parts.map String.ofList

theorem not_isSeparator_of_read? {c : Char} {r : List Char}
    (h : separatorPattern.read? (c :: r) = none) : isSeparator c = false := by
  rw [Bool.eq_false_iff]
  intro hc
  have hblank : isBlank c = false := by
    rw [Bool.eq_false_iff]
    intro hblank
    rw [not_isSeparator_of_isBlank hblank] at hc
    cases hc
  -- No white space stands before the separator, so the search stops at it.
  have hafter : Pattern.read? [.longest isBlank] r =
      some ([r.takeWhile isBlank], r.dropWhile isBlank) := by
    rw [Pattern.read?, Pattern.getLast?_ways (x := ([], r.dropWhile isBlank)) rfl]
    rfl
  have hnext : Pattern.read? [.one isSeparator, .longest isBlank] ((c :: r).dropWhile isBlank) =
      some ([[c], r.takeWhile isBlank], r.dropWhile isBlank) := by
    rw [List.dropWhile_cons_of_neg (by simp [hblank]), Pattern.read?, if_pos hc, hafter]
    rfl
  rw [separatorPattern, Pattern.read?, Pattern.getLast?_ways hnext] at h
  cases h

/-- A line and its parts: the first part begins where the line does, and if others follow, there is
a separator behind it. -/
inductive Opened : List (List Char) → List Char → Prop
  | last {first : List Char} (h : ∀ c ∈ first, isSeparator c = false) : Opened [first] first
  | more {first blanks line : List Char} {parts : List (List Char)} {c : Char}
      (h : ∀ c ∈ first, isSeparator c = false) (hblanks : ∀ c ∈ blanks, isBlank c)
      (hc : isSeparator c) (hrest : Joined (parts.map String.ofList) line) (hne : parts ≠ []) :
      Opened (first :: parts) (first ++ blanks ++ c :: line)

theorem Opened.push {first line : List Char} {parts : List (List Char)} {c : Char}
    (h : Opened (first :: parts) line) (hc : isSeparator c = false) :
    Opened ((c :: first) :: parts) (c :: line) := by
  cases h with
  | last h => exact .last (List.forall_mem_cons.mpr ⟨hc, h⟩)
  | more h hblanks hseparator hrest hne =>
    exact .more (List.forall_mem_cons.mpr ⟨hc, h⟩) hblanks hseparator hrest hne

theorem Opened.joined {parts : List (List Char)} {line blanks : List Char} (h : Opened parts line)
    (hblanks : ∀ c ∈ blanks, isBlank c) :
    Joined (parts.map String.ofList) (blanks ++ line) ∧ parts ≠ [] := by
  cases h with
  | last h =>
    refine ⟨.single ⟨by simpa using h, blanks, [], by simp, hblanks, nofun⟩, List.cons_ne_nil _ _⟩
  | @more first after rest parts c h hafter hc hrest hne =>
    obtain ⟨next, parts, rfl⟩ := List.exists_cons_of_ne_nil hne
    have hpadded : Padded (String.ofList first) (blanks ++ first ++ after) :=
      ⟨by simpa using h, blanks, after, by simp, hblanks, hafter⟩
    have hline : blanks ++ (first ++ after ++ c :: rest) =
        blanks ++ first ++ after ++ c :: rest := by simp
    rw [hline]
    exact ⟨.cons hpadded hc hrest, List.cons_ne_nil _ _⟩

theorem opened_cut (line : List Char) :
    Opened (separatorPattern.cut line).parts line := by
  refine Pattern.cut_induction (p := isSeparator) (by simp [separatorPattern])
    (motive := fun line t => Opened t.parts line) ?nil ?found ?pass line
  case nil => exact .last nofun
  case found =>
    intro pieces after htakes _ ih
    cases htakes with
    | cons hbefore htakes =>
      cases htakes with
      | cons hone htakes =>
        cases htakes with
        | cons hafter htakes =>
          cases htakes
          obtain ⟨c, rfl, hc⟩ := hone
          obtain ⟨hjoined, hne⟩ := ih.joined hafter
          have hopened := @Opened.more [] _ _ _ _ nofun hbefore hc hjoined hne
          simpa [Cutting.parts] using hopened
  case pass =>
    intro c r hnone ih
    have hc := not_isSeparator_of_read? hnone
    generalize separatorPattern.cut r = t at ih
    cases t <;> exact ih.push hc

theorem joined_partsOf (line : String) : Joined (partsOf line) line.toList := by
  have hblanks : ∀ c ∈ ([] : List Char), isBlank c := nofun
  exact ((opened_cut line.toList).joined hblanks).1

/-! ### Both forms -/

/-- Names given one by one and joined in a line have the same technologies: the recognised names
among them in any case and with white space around them, each once, in the order in which they first
occur. Every line is made of the names that a search for separators leaves of it. -/
theorem technologies_agree :
    (∀ names : List String, ∃ found, Recognizes names found ∧
      technologies (.list (names.map .text)) = .ok found ∧
      technologies (.tuple (names.map .text)) = .ok found ∧
      ∀ line : String, Joined names line.toList → technologies (.text line) = .ok found) ∧
    ∀ line : String, Joined (partsOf line) line.toList := by
  refine ⟨?_, joined_partsOf⟩
  intro names
  have hitems : (names.map Value.text).map Value.plain = names := by
    rw [List.map_map]
    exact List.map_id names
  refine ⟨recognizedAmong names, recognizes_recognizedAmong names, ?_, ?_, ?_⟩
  · rw [technologies_of_items rfl, hitems]
  · rw [technologies_of_items rfl, hitems]
  · intro line hline
    rw [technologies_of_text rfl, hline.recognizedAmong_eq]

/-- An empty name between two separators, and a wide space behind one. -/
theorem technologies_agree_line :
    let names := [" React", "", "VUE"]
    let line := " React +,\u2003VUE"
    Joined names line.toList ∧
      technologies (.list (names.map .text)) = .ok ["react", "vue"] ∧
      technologies (.text line) = .ok ["react", "vue"] := by
  intro names line
  have hline : Joined names line.toList := by
    have hparts : partsOf line = names := by decide +kernel
    rw [← hparts]
    exact technologies_agree.2 line
  have hlist : technologies (.list (names.map .text)) = .ok ["react", "vue"] := by decide +kernel
  obtain ⟨found, -, hfound, -, hagree⟩ := technologies_agree.1 names
  rw [hlist] at hfound
  cases hfound
  exact ⟨hline, hlist, hagree line hline⟩

end Promptsmith.Score
