import Promptsmith.Proofs.Catalog.Weights
import Promptsmith.Proofs.Text.Lower

/-!
# The choice is the best variant

Of the variants listed for an archetype the choice takes the best: of those that suit the reader,
the one whose focus the phase wants most, and of equals the first. Three filters and two nested
searches are thus one minimum over pairs of rank and position, in which no weight occurs.
-/
namespace Promptsmith

/-- How late a focus comes in the order a phase wants them. -/
def Phase.rank (p : Phase) (f : Focus) : Nat :=
  p.focuses.idxOf f

/-- What of a list a reader may be given: what is written for the reader's experience; where nothing
is, for beginners and experts what is written for intermediate readers; where nothing is left,
all. -/
inductive Suits (e : Experience) (vs : List Variant) (v : Variant) : Prop
  | own (h : v.audience = e)
  | fallback (hnone : ∀ w ∈ vs, w.audience ≠ e) (he : e = .beginner ∨ e = .expert)
      (h : v.audience = .intermediate)
  | any (hnone : ∀ w ∈ vs, w.audience ≠ e)
      (hrest : e = .intermediate ∨ ∀ w ∈ vs, w.audience ≠ .intermediate)

/-- At a position of a list stands a variant that suits the reader, and each other that does is
wanted less, or as much but comes later. -/
structure Best (s : Selection) (vs : List Variant) (i : Nat) (v : Variant) : Prop where
  listed : vs[i]? = some v
  suits : Suits s.experience vs v
  least : ∀ j w, vs[j]? = some w → Suits s.experience vs w →
    s.phase.rank v.focus < s.phase.rank w.focus ∨
      s.phase.rank v.focus = s.phase.rank w.focus ∧ i ≤ j

variable {s : Selection} {e : Experience} {vs ws : List Variant} {v w : Variant}

theorem Best.mem {i : Nat} (h : Best s vs i v) : v ∈ vs :=
  List.mem_of_getElem? h.listed

theorem Best.unique {i j : Nat} (h : Best s vs i v) (h' : Best s vs j w) : i = j ∧ v = w := by
  have hij : i = j := by
    have hle := h.least j w h'.listed h'.suits
    have hge := h'.least i v h.listed h.suits
    omega
  subst hij
  exact ⟨rfl, Option.some.inj (h.listed.symm.trans h'.listed)⟩

/-! ### The filters -/

theorem writtenFor_eq_nil_iff : writtenFor e vs = [] ↔ ∀ v ∈ vs, v.audience ≠ e := by
  simp [writtenFor]

theorem ne_intermediate_iff : e ≠ .intermediate ↔ e = .beginner ∨ e = .expert := by
  cases e <;> simp

/-- What a reader may be given is filtered from the list. -/
theorem exists_eligible_eq_filter (e : Experience) (vs : List Variant) :
    ∃ p : Variant → Bool, (∀ v, p v ↔ Suits e vs v) ∧ eligible e vs = vs.filter p := by
  unfold eligible
  cases hown : writtenFor e vs with
  | cons v own =>
    have hsome : ¬ ∀ w ∈ vs, w.audience ≠ e := by
      rw [← writtenFor_eq_nil_iff, hown]
      nofun
    refine ⟨fun v => v.audience = e, ?_, hown.symm⟩
    intro v
    rw [decide_eq_true_iff]
    constructor
    · exact .own
    · intro h
      cases h with
      | own h => exact h
      | fallback hnone => exact absurd hnone hsome
      | any hnone => exact absurd hnone hsome
  | nil =>
    have hnone := writtenFor_eq_nil_iff.mp hown
    have hall (hrest : e = .intermediate ∨ ∀ w ∈ vs, w.audience ≠ .intermediate) :
        ∃ p : Variant → Bool, (∀ v, p v ↔ Suits e vs v) ∧ vs = vs.filter p :=
      ⟨fun _ => true, fun v => ⟨fun _ => .any hnone hrest, fun _ => rfl⟩, by simp⟩
    by_cases he : e = .intermediate
    · rw [if_pos he]
      exact hall (.inl he)
    · rw [if_neg he]
      dsimp only
      cases hother : writtenFor .intermediate vs with
      | nil => exact hall (.inr (writtenFor_eq_nil_iff.mp hother))
      | cons v other =>
        have hsome : ¬ ∀ w ∈ vs, w.audience ≠ .intermediate := by
          rw [← writtenFor_eq_nil_iff, hother]
          nofun
        refine ⟨fun v => v.audience = .intermediate ∨ v.audience = e, ?_, ?_⟩
        · intro v
          rw [decide_eq_true_iff]
          constructor
          · rintro (h | h)
            · exact .fallback hnone (ne_intermediate_iff.mp he) h
            · exact .own h
          · intro h
            cases h with
            | own h => exact .inr h
            | fallback _ _ h => exact .inl h
            | any _ hrest => exact absurd (hrest.resolve_left he) hsome
        · dsimp only
          rw [← hother, writtenFor]
          refine List.filter_congr ?_
          intro w hw
          simp [hnone w hw]

theorem eligible_ne_nil (hvs : vs ≠ []) : eligible e vs ≠ [] := by
  unfold eligible
  split
  · split
    · exact hvs
    · next hne => exact hne
  · next hne => exact hne

/-! ### The search -/

theorem exists_firstWithFocus (p : Phase) (hvs : vs ≠ []) :
    ∃ v, firstWithFocus vs p.focuses = some v := by
  obtain ⟨v, r, rfl⟩ := List.exists_cons_of_ne_nil hvs
  refine Option.isSome_iff_exists.mp (List.findSome?_isSome_iff.mpr ?_)
  exact ⟨v.focus, p.mem_focuses v.focus, by simp⟩

/-- The first variant with the first focus that any has is the best. -/
theorem exists_best_of_firstWithFocus
    (h : firstWithFocus (eligible s.experience vs) s.phase.focuses = some v) :
    ∃ i, Best s vs i v := by
  obtain ⟨p, hsuits, heligible⟩ := exists_eligible_eq_filter s.experience vs
  rw [heligible] at h
  obtain ⟨earlier, f, later, hfocuses, hfound, hskipped⟩ := List.findSome?_eq_some_iff.mp h
  rw [List.find?_filter, List.find?_eq_some_iff_getElem] at hfound
  obtain ⟨hv, i, hi, hvi, hbefore⟩ := hfound
  obtain ⟨hpv, hfocus⟩ : p v = true ∧ v.focus = f := by simpa using hv
  have habsent : ∀ w ∈ vs, p w → w.focus ∉ earlier := by
    intro w hw hpw hmem
    have hnone := List.find?_eq_none.mp (hskipped w.focus hmem) w (List.mem_filter.mpr ⟨hw, hpw⟩)
    simp at hnone
  have hvmem : v ∈ vs := hvi ▸ List.getElem_mem hi
  have hrank : s.phase.rank v.focus = earlier.length := by
    have hnot := habsent v hvmem hpv
    rw [hfocus] at hnot
    rw [Phase.rank, hfocuses, List.idxOf_append, hfocus, if_neg hnot, List.idxOf_cons_self,
      Nat.zero_add]
  refine ⟨i, ?_, (hsuits v).mp hpv, ?_⟩
  · rw [List.getElem?_eq_getElem hi, hvi]
  · intro j w hwj hw
    have hpw := (hsuits w).mpr hw
    have hrankw : s.phase.rank w.focus = (f :: later).idxOf w.focus + earlier.length := by
      rw [Phase.rank, hfocuses, List.idxOf_append,
        if_neg (habsent w (List.mem_of_getElem? hwj) hpw)]
    by_cases hsame : w.focus = f
    · -- Equally wanted: the search within one focus met `v` first.
      refine .inr ⟨by rw [hsame, hfocus], ?_⟩
      by_contra hlt
      obtain ⟨hj, hwj⟩ := List.getElem?_eq_some_iff.mp hwj
      have hmissed := hbefore j (by omega)
      simp [hwj, hpw, hsame] at hmissed
    · have hlate : (f :: later).idxOf w.focus ≠ 0 := by
        rw [List.idxOf_cons_ne _ (Ne.symm hsame)]
        exact Nat.succ_ne_zero _
      omega

/-- What comes after the search is never needed: some focus is found. -/
theorem byRule_eq_firstWithFocus (s : Selection) (hvs : vs ≠ []) :
    byRule s vs = firstWithFocus (eligible s.experience vs) s.phase.focuses := by
  obtain ⟨v, hv⟩ := exists_firstWithFocus s.phase (eligible_ne_nil (e := s.experience) hvs)
  simp [byRule, hv]

theorem exists_best_of_byRule (s : Selection) (hvs : vs ≠ []) :
    ∃ i v, byRule s vs = some v ∧ Best s vs i v := by
  obtain ⟨v, hv⟩ := exists_firstWithFocus s.phase (eligible_ne_nil (e := s.experience) hvs)
  obtain ⟨i, hbest⟩ := exists_best_of_firstWithFocus hv
  exact ⟨i, v, (byRule_eq_firstWithFocus s hvs).trans hv, hbest⟩

/-- The rule also gives the only variant of a list. -/
theorem byRule_eq_chosen (archetype : String) (s : Selection) (hvs : vs ≠ []) :
    byRule s vs = some (chosen archetype s vs) := by
  obtain ⟨i, v, hv, hbest⟩ := exists_best_of_byRule s hvs
  match vs with
  | [] => exact absurd rfl hvs
  | [w] =>
    have hw : v = w := by simpa using hbest.mem
    rw [hv, hw]
    rfl
  | w :: w' :: r => rw [chosen, hv, Option.getD_some]

theorem exists_best_chosen (archetype : String) (s : Selection) (hvs : vs ≠ []) :
    ∃ i, Best s vs i (chosen archetype s vs) := by
  obtain ⟨i, v, hv, hbest⟩ := exists_best_of_byRule s hvs
  rw [byRule_eq_chosen archetype s hvs, Option.some.injEq] at hv
  exact ⟨i, hv ▸ hbest⟩

/-! ### Weights -/

/-- Lists that differ in weights alone are written for the same readers. -/
theorem forall_audience_ne (h : vs.map Variant.unweighted = ws.map Variant.unweighted)
    (hnone : ∀ v ∈ vs, v.audience ≠ e) : ∀ w ∈ ws, w.audience ≠ e := by
  intro w hw
  have hmem : w.unweighted ∈ vs.map Variant.unweighted := h ▸ List.mem_map_of_mem hw
  obtain ⟨v, hv, hvw⟩ := List.mem_map.mp hmem
  rw [← Variant.audience_of_unweighted hvw]
  exact hnone v hv

theorem Suits.congr (hlists : vs.map Variant.unweighted = ws.map Variant.unweighted)
    (hvw : v.unweighted = w.unweighted) (h : Suits e vs v) : Suits e ws w := by
  have haudience := Variant.audience_of_unweighted hvw
  cases h with
  | own h => exact .own (haudience ▸ h)
  | fallback hnone he h => exact .fallback (forall_audience_ne hlists hnone) he (haudience ▸ h)
  | any hnone hrest =>
    exact .any (forall_audience_ne hlists hnone) (hrest.imp_right (forall_audience_ne hlists))

theorem exists_getElem?_unweighted (h : vs.map Variant.unweighted = ws.map Variant.unweighted)
    {i : Nat} (hv : vs[i]? = some v) : ∃ w, ws[i]? = some w ∧ v.unweighted = w.unweighted := by
  have hmap : (ws.map Variant.unweighted)[i]? = some v.unweighted := by
    rw [← h, List.getElem?_map, hv]
    rfl
  rw [List.getElem?_map, Option.map_eq_some_iff] at hmap
  obtain ⟨w, hw, hvw⟩ := hmap
  exact ⟨w, hw, hvw.symm⟩

/-- The best variant keeps its position whatever the weights are. -/
theorem Best.congr (hlists : vs.map Variant.unweighted = ws.map Variant.unweighted) {i : Nat}
    (h : Best s vs i v) : ∃ w, Best s ws i w := by
  obtain ⟨w, hw, hvw⟩ := exists_getElem?_unweighted hlists h.listed
  refine ⟨w, hw, h.suits.congr hlists hvw, ?_⟩
  intro j w' hw' hsuits
  obtain ⟨v', hv', hvw'⟩ := exists_getElem?_unweighted hlists.symm hw'
  rw [← Variant.focus_of_unweighted hvw, Variant.focus_of_unweighted hvw']
  exact h.least j v' hv' (hsuits.congr hlists.symm hvw')

/-! ### The catalog -/

theorem Catalog.variants_lowered (c : Catalog) (archetype : String) :
    c.variants (Text.lowered archetype) = c.variants archetype := by
  rw [variants, variants, placesOf, placesOf, Text.lowered_lowered]

theorem Catalog.select_eq_chosen_variants (c : Catalog) (s : Selection) :
    c.select s = chosen (Text.lowered s.intent.archetype) s (c.variants s.intent.archetype) := by
  rw [select_eq_chosen, variants_lowered]

/-- Without variants for its archetype a selection is answered with the default one. Else it is
answered with the one that stands at the best position of their list, whatever their weights are;
the rule for several finds it also in a list of one, and always by its focus. -/
theorem Catalog.select_best (c : Catalog) (s : Selection) :
    let vs := c.variants s.intent.archetype
    (vs = [] → c.select s = Variant.default (Text.lowered s.intent.archetype)) ∧
    (vs ≠ [] →
      byRule s vs = some (c.select s) ∧
      firstWithFocus (eligible s.experience vs) s.phase.focuses = some (c.select s) ∧
      c.select s ∈ vs ∧
      ∃ i, Best s vs i (c.select s) ∧ (∀ j v, Best s vs j v → j = i ∧ v = c.select s) ∧
        ∀ d : Catalog, c.SameButWeights d →
          (d.variants s.intent.archetype)[i]? = some (d.select s)) := by
  intro vs
  rw [select_eq_chosen_variants]
  constructor
  · intro hvs
    change chosen _ s vs = _
    rw [hvs]
    rfl
  · intro hvs
    have hrule := byRule_eq_chosen (Text.lowered s.intent.archetype) s hvs
    obtain ⟨i, hbest⟩ := exists_best_chosen (Text.lowered s.intent.archetype) s hvs
    refine ⟨hrule, (byRule_eq_firstWithFocus s hvs).symm.trans hrule, hbest.mem, i, hbest, ?_, ?_⟩
    · intro j v h
      exact h.unique hbest
    · intro d hd
      have hlists := hd s.intent.archetype
      have hds : d.variants s.intent.archetype ≠ [] := by
        intro hnil
        rw [hnil, List.map_nil, List.map_eq_nil_iff] at hlists
        exact hvs hlists
      obtain ⟨w, hw⟩ := hbest.congr hlists
      obtain ⟨j, hj⟩ := exists_best_chosen (Text.lowered s.intent.archetype) s hds
      rw [select_eq_chosen_variants, (hw.unique hj).1]
      exact hj.listed

/-- A variant by what the choice looks at, and its weight. -/
def shelved (id : String) (audience : Experience) (focus : Focus) (weight : Float) : Variant :=
  { id, name := id, description := "", audience, focus, bodyPath := "blog/" ++ id ++ ".md", weight }

/-- Four variants for blogs, none of them for experts. -/
def shelf : Catalog :=
  .ofGroups [("blog", [shelved "plain" .beginner .architecture 2.0,
    shelved "tuned" .intermediate .implementation 2.0,
    shelved "first" .intermediate .architecture 0.5,
    shelved "second" .intermediate .architecture 2.0])]

/-- An expert who plans a blog. -/
def blogPlanner : Selection where
  intent :=
    { archetype := "Blog", features := [], complexity := .medium, confidence := 60, reasoning := ""
      techPreferences := [], suggestions := [] }
  experience := .expert
  phase := .planning
  feedback := []

/-- The expert is given what is written for intermediate readers; of the two variants that planning
wants most the first, though it weighs less and feedback makes it weigh less still. -/
theorem Catalog.select_best_shelf :
    let dislike : List Feedback := [⟨"first", 1, .notHelpful, ""⟩]
    shelf.select blogPlanner = shelved "first" .intermediate .architecture 0.5 ∧
      ∃ i, Best blogPlanner (shelf.variants "Blog") i (shelf.select blogPlanner) ∧
        ((shelf.learn dislike).variants "Blog")[i]? =
          some ((shelf.learn dislike).select blogPlanner) := by
  intro dislike
  have hnonempty : shelf.variants blogPlanner.intent.archetype ≠ [] := by decide +kernel
  obtain ⟨-, hfirst, -, i, hbest, -, hweights⟩ := (shelf.select_best blogPlanner).2 hnonempty
  refine ⟨?_, i, hbest, hweights _ (sameButWeights_learn shelf dislike).symm⟩
  have hfound : firstWithFocus (eligible .expert (shelf.variants "Blog")) Phase.planning.focuses =
      some (shelved "first" .intermediate .architecture 0.5) := by rfl
  exact Option.some.inj (hfirst.symm.trans hfound)

end Promptsmith
