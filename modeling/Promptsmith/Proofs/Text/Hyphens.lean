import Promptsmith.Proofs.Text.Lower
import Promptsmith.Proofs.Text.Pattern
import Promptsmith.Text.Case

/-!
# The runs of a file name

A file name joins the maximal runs of plain characters of a text in lower case by single hyphens. So
it has hyphens between runs only, and names of that shape are what file names are made of and what
they are kept as. The same name comes out where other characters become hyphens first, adjacent
hyphens become one and those at the ends are stripped.
-/
namespace Promptsmith.Text

/-! ### Runs -/

/-- The maximal runs of characters with property `p`, in order. -/
inductive Runs (p : Char → Bool) : List Char → List (List Char) → Prop
  | last {gap : List Char} (hgap : ∀ c ∈ gap, p c = false) : Runs p gap []
  | run {gap run rest : List Char} {runs : List (List Char)} (hgap : ∀ c ∈ gap, p c = false)
      (hne : run ≠ []) (hrun : ∀ c ∈ run, p c) (hend : ∀ c ∈ rest.head?, p c = false)
      (hrest : Runs p rest runs) : Runs p (gap ++ run ++ rest) (run :: runs)

section

variable {p : Char → Bool} {s : List Char} {runs : List (List Char)}

/-- A character in front belongs to the first run, is a run of its own or goes to the gap. -/
theorem Runs.exists_cons (h : Runs p s runs) (c : Char) : ∃ runs', Runs p (c :: s) runs' := by
  cases hc : p c with
  | false =>
    cases h with
    | last hgap => exact ⟨[], .last (List.forall_mem_cons.mpr ⟨hc, hgap⟩)⟩
    | run hgap hne hrun hend hrest =>
      exact ⟨_, .run (List.forall_mem_cons.mpr ⟨hc, hgap⟩) hne hrun hend hrest⟩
  | true =>
    have hsingle : ∀ d ∈ [c], p d := by simpa using hc
    -- Behind a gap, the character is a run of its own.
    have halone (hhead : ∀ d ∈ s.head?, p d = false) : ∃ runs', Runs p (c :: s) runs' :=
      ⟨[c] :: runs, @Runs.run p [] [c] s runs nofun (List.cons_ne_nil c []) hsingle hhead h⟩
    cases h with
    | last hgap => exact halone fun d hd => hgap d (List.mem_of_head? hd)
    | @run gap run rest runs hgap hne hrun hend hrest =>
      cases gap with
      | nil =>
        have hrun' : ∀ d ∈ c :: run, p d := List.forall_mem_cons.mpr ⟨hc, hrun⟩
        have hne' : c :: run ≠ [] := List.cons_ne_nil c run
        exact ⟨_, @Runs.run p [] (c :: run) rest runs nofun hne' hrun' hend hrest⟩
      | cons d gap => exact halone (by simpa using (List.forall_mem_cons.mp hgap).1)

theorem exists_runs (p : Char → Bool) (s : List Char) : ∃ runs, Runs p s runs := by
  induction s with
  | nil => exact ⟨[], .last nofun⟩
  | cons c s ih =>
    obtain ⟨runs, h⟩ := ih
    exact h.exists_cons c

/-- What stands between the characters without the property, where something does. -/
def runsOf (p : Char → Bool) (s : List Char) : List (List Char) :=
  (splitAt (!p ·) s).filter (· ≠ [])

theorem runsOf_gap_append {gap : List Char} (hgap : ∀ c ∈ gap, p c = false) (s : List Char) :
    runsOf p (gap ++ s) = runsOf p s := by
  induction gap with
  | nil => rfl
  | cons c gap ih =>
    rw [List.forall_mem_cons] at hgap
    rw [← ih hgap.2]
    simp [runsOf, splitAt, hgap.1]

theorem Runs.eq_runsOf (h : Runs p s runs) : runs = runsOf p s := by
  induction h with
  | @last gap hgap =>
    have hnone := runsOf_gap_append hgap []
    rw [List.append_nil] at hnone
    rw [hnone]
    rfl
  | @run gap run rest runs hgap hne hrun hend _ ih =>
    have hwhole : splitAt (!p ·) run = [run] :=
      splitAt_of_forall fun c hc => by simpa using hrun c hc
    rw [List.append_assoc, runsOf_gap_append hgap, ih]
    cases rest with
    | nil =>
      rw [List.append_nil, runsOf, runsOf, hwhole]
      simp [splitAt, hne]
    | cons c rest =>
      have hc : p c = false := by simpa using hend
      have hsplit : splitAt (!p ·) (run ++ c :: rest) = [run] ++ splitAt (!p ·) rest := by
        rw [splitAt_append_cons (by simp [hc]), hwhole]
      rw [runsOf, runsOf, hsplit]
      simp [splitAt, hc, hne]

/-- A text has its maximal runs and no others. -/
theorem runs_iff : Runs p s runs ↔ runs = runsOf p s := by
  constructor
  · exact Runs.eq_runsOf
  · rintro rfl
    obtain ⟨runs, h⟩ := exists_runs p s
    exact h.eq_runsOf ▸ h

theorem Runs.forall_mem (h : Runs p s runs) : ∀ run ∈ runs, run ≠ [] ∧ ∀ c ∈ run, p c := by
  induction h with
  | last => exact nofun
  | run _ hne hrun _ _ ih => exact List.forall_mem_cons.mpr ⟨⟨hne, hrun⟩, ih⟩

end

/-! ### Hyphens between runs -/

section

variable {s t : List Char} {runs : List (List Char)}

theorem hyphenate_run (hrun : ∀ c ∈ s, isPlain c) (t : List Char) :
    hyphenate false (s ++ t) = s ++ hyphenate false t := by
  induction s with
  | nil => rfl
  | cons c s ih =>
    rw [List.forall_mem_cons] at hrun
    rw [List.cons_append, hyphenate, if_pos hrun.1, ih hrun.2]
    rfl

theorem hyphenate_gap (hgap : ∀ c ∈ s, isPlain c = false) (t : List Char) :
    hyphenate true (s ++ t) = hyphenate true t := by
  induction s with
  | nil => rfl
  | cons c s ih =>
    rw [List.forall_mem_cons] at hgap
    rw [List.cons_append, hyphenate, if_neg (by simp [hgap.1]), ih hgap.2]

theorem hyphenate_eq_nil (hgap : ∀ c ∈ s, isPlain c = false) : hyphenate true s = [] := by
  have hnone := hyphenate_gap hgap []
  rwa [List.append_nil] at hnone

/-- Where no plain character comes next, it does not matter whether a gap was passed. -/
theorem hyphenate_eq_true (h : ∀ c ∈ t.head?, isPlain c = false) :
    hyphenate false t = hyphenate true t := by
  cases t with
  | nil => rfl
  | cons c t =>
    have hc : isPlain c = false := by simpa using h
    rw [hyphenate, hyphenate, if_neg (by simp [hc]), if_neg (by simp [hc])]

theorem hyphenate_true_run (hrun : ∀ c ∈ s, isPlain c) (hne : s ≠ []) (t : List Char) :
    hyphenate true (s ++ t) = '-' :: s ++ hyphenate false t := by
  obtain ⟨c, s, rfl⟩ := List.exists_cons_of_ne_nil hne
  rw [List.forall_mem_cons] at hrun
  rw [List.cons_append, hyphenate, if_pos hrun.1, hyphenate_run hrun.2]
  rfl

theorem Runs.hyphenate_eq (h : Runs isPlain s runs) :
    hyphenate true s = runs.flatMap ('-' :: ·) := by
  induction h with
  | last hgap => exact hyphenate_eq_nil hgap
  | run hgap hne hrun hend _ ih =>
    rw [List.append_assoc, hyphenate_gap hgap, hyphenate_true_run hrun hne, hyphenate_eq_true hend,
      ih, List.flatMap_cons]

theorem intercalate_cons (c : Char) (run : List Char) (runs : List (List Char)) :
    [c].intercalate (run :: runs) = run ++ runs.flatMap (c :: ·) := by
  induction runs generalizing run with
  | nil => simp
  | cons next runs ih =>
    rw [List.intercalate_cons_cons, ih, List.flatMap_cons, List.append_assoc]
    rfl

theorem Runs.hyphenated_eq (h : Runs isPlain s runs) : hyphenated s = ['-'].intercalate runs := by
  cases h with
  | last hgap =>
    have hnone : s.dropWhile (!isPlain ·) = [] := by simpa using hgap
    rw [hyphenated, hnone]
    rfl
  | @run gap run rest runs hgap hne hrun hend hrest =>
    obtain ⟨c, run, rfl⟩ := List.exists_cons_of_ne_nil hne
    have hc : isPlain c := hrun c List.mem_cons_self
    have hdrop : (gap ++ (c :: run) ++ rest).dropWhile (!isPlain ·) = (c :: run) ++ rest := by
      rw [List.append_assoc, List.dropWhile_append_of_pos (by simpa using hgap),
        List.cons_append, List.dropWhile_cons_of_neg (by simp [hc])]
    rw [hyphenated, hdrop, hyphenate_run hrun, hyphenate_eq_true hend, hrest.hyphenate_eq,
      intercalate_cons]

end

/-! ### The shape of a file name -/

/-- Plain characters, with single hyphens between some of them. -/
structure IsFileName (t : List Char) : Prop where
  plain : ∀ c ∈ t, isPlain c ∨ c = '-'
  single : t.IsChain fun c d => c ≠ '-' ∨ d ≠ '-'
  start : t.head? ≠ some '-'
  finish : t.getLast? ≠ some '-'

theorem ne_hyphen_of_isPlain {c : Char} (h : isPlain c) : c ≠ '-' := by
  rintro rfl
  exact absurd h (by decide)

section

variable {s t run : List Char} {runs : List (List Char)}

theorem IsFileName.of_run (hrun : ∀ c ∈ run, isPlain c) : IsFileName run where
  plain c hc := .inl (hrun c hc)
  single := (List.pairwise_of_forall_mem_list fun c hc _ _ =>
    .inl (ne_hyphen_of_isPlain (hrun c hc))).isChain
  start h := ne_hyphen_of_isPlain (hrun _ (List.mem_of_head? h)) rfl
  finish h := ne_hyphen_of_isPlain (hrun _ (List.mem_of_getLast? h)) rfl

/-- A run and a hyphen in front of a name. -/
theorem IsFileName.run_append (hrun : ∀ c ∈ run, isPlain c) (hne : run ≠ [])
    (h : IsFileName t) (ht : t ≠ []) : IsFileName (run ++ '-' :: t) := by
  have hfirst := IsFileName.of_run hrun
  refine ⟨?_, ?_, ?_, ?_⟩
  · intro c hc
    rcases List.mem_append.mp hc with hc | hc
    · exact hfirst.plain c hc
    · rcases List.mem_cons.mp hc with rfl | hc
      · exact .inr rfl
      · exact h.plain c hc
  · refine List.isChain_append.mpr ⟨hfirst.single, List.isChain_cons.mpr ⟨?_, h.single⟩, ?_⟩
    · rintro d hd
      refine .inr ?_
      rintro rfl
      exact h.start hd
    · intro c hc _ _
      exact .inl (ne_hyphen_of_isPlain (hrun c (List.mem_of_getLast? hc)))
  · rw [List.head?_append_of_ne_nil _ hne]
    exact hfirst.start
  · obtain ⟨c, t, rfl⟩ := List.exists_cons_of_ne_nil ht
    rw [List.getLast?_append, List.getLast?_cons_cons]
    have hlast := h.finish
    rw [List.getLast?_cons] at hlast ⊢
    exact hlast

theorem isFileName_intercalate (h : ∀ run ∈ runs, run ≠ [] ∧ ∀ c ∈ run, isPlain c) :
    IsFileName (['-'].intercalate runs) := by
  induction runs with
  | nil => exact .of_run nofun
  | cons run runs ih =>
    rw [List.forall_mem_cons] at h
    cases runs with
    | nil =>
      rw [List.intercalate_singleton]
      exact .of_run h.1.2
    | cons next runs =>
      have hnext : next ≠ [] := (h.2 next List.mem_cons_self).1
      have hne : ['-'].intercalate (next :: runs) ≠ [] := by
        rw [intercalate_cons]
        exact List.append_ne_nil_of_left_ne_nil hnext _
      rw [List.intercalate_cons_cons, List.append_assoc]
      exact (ih h.2).run_append h.1.2 h.1.1 hne

theorem isFileName_hyphenated (s : List Char) : IsFileName (hyphenated s) := by
  obtain ⟨runs, h⟩ := exists_runs isPlain s
  rw [h.hyphenated_eq]
  exact isFileName_intercalate h.forall_mem

/-- Single hyphens are put back where they were, in front of the first plain character as well. -/
theorem hyphenate_of_single (hplain : ∀ c ∈ t, isPlain c ∨ c = '-')
    (hsingle : t.IsChain fun c d => c ≠ '-' ∨ d ≠ '-') (hfinish : t.getLast? ≠ some '-') :
    hyphenate false t = t := by
  induction t with
  | nil => rfl
  | cons c t ih =>
    rw [List.forall_mem_cons] at hplain
    rw [List.isChain_cons] at hsingle
    have hrest : hyphenate false t = t := by
      refine ih hplain.2 hsingle.2 ?_
      intro hlast
      exact hfinish (by rw [List.getLast?_cons, hlast]; rfl)
    rcases hplain.1 with hc | rfl
    · rw [hyphenate, if_pos hc, hrest]
      rfl
    · -- The hyphen waits for the next character, which is there and is plain.
      cases t with
      | nil => exact absurd rfl hfinish
      | cons d t =>
        have hd : isPlain d :=
          hplain.2 d List.mem_cons_self |>.resolve_right <| by
            simpa using hsingle.1 d rfl
        rw [hyphenate, if_pos hd] at hrest
        rw [hyphenate, if_neg (by decide), hyphenate, if_pos hd]
        exact congrArg ('-' :: ·) hrest

theorem IsFileName.hyphenated_eq (h : IsFileName t) : hyphenated t = t := by
  have hdrop : t.dropWhile (!isPlain ·) = t := by
    cases t with
    | nil => rfl
    | cons c t =>
      have hc : isPlain c :=
        (h.plain c List.mem_cons_self).resolve_right fun hc => h.start (congrArg some hc)
      rw [List.dropWhile_cons_of_neg (by simp [hc])]
  rw [hyphenated, hdrop, hyphenate_of_single h.plain h.single h.finish]

end

end Promptsmith.Text
