import Promptsmith.Proofs.Analysis.Merging
import Promptsmith.Proofs.Text.Splitting
import Promptsmith.Score

/-!
# More detail never scores lower

Which names a stack has in common with the recognised ones depends on what it lists alone: not on
the order, nor on repetitions. So a stack that lists more has at least as many of them, a longer
list of features is worth at least as much, and the sum of such terms stays between its bounds.
-/
namespace Promptsmith.Score

/-! ### Recognised names -/

variable {names more : List String}

theorem addNew_eq_mergeStep (names : List String) (name : String) :
    addNew names name = if names.any (name == ·) then names else names ++ [name] := by
  simp [addNew]

/-- Each recognised name is kept where it first occurs. -/
theorem recognizedAmong_eq (names : List String) :
    recognizedAmong names = ((names.map normalized).filter (· ∈ recognized)).eraseDups := by
  have hstep : addNew = fun names name => if names.any (name == ·) then names else names ++ [name] :=
    funext₂ addNew_eq_mergeStep
  rw [← Analysis.mergeBy_nil, recognizedAmong, hstep]
  rfl

theorem nodup_recognizedAmong (names : List String) : (recognizedAmong names).Nodup := by
  rw [recognizedAmong_eq, ← Analysis.mergeBy_nil]
  exact Analysis.nodup_mergeBy List.nodup_nil _

theorem mem_recognizedAmong_iff {x : String} :
    x ∈ recognizedAmong names ↔ (∃ name ∈ names, normalized name = x) ∧ x ∈ recognized := by
  simp [recognizedAmong_eq]

/-- More names have at least as many recognised ones among them. -/
theorem length_recognizedAmong_le (h : names ⊆ more) :
    (recognizedAmong names).length ≤ (recognizedAmong more).length := by
  have hsubset : recognizedAmong names ⊆ recognizedAmong more := by
    intro x hx
    obtain ⟨⟨name, hname, rfl⟩, hrecognized⟩ := mem_recognizedAmong_iff.mp hx
    exact mem_recognizedAmong_iff.mpr ⟨⟨name, h hname, rfl⟩, hrecognized⟩
  exact ((nodup_recognizedAmong names).subperm hsubset).length_le

theorem length_recognizedAmong_perm (h : names.Perm more) :
    (recognizedAmong names).length = (recognizedAmong more).length :=
  Nat.le_antisymm (length_recognizedAmong_le h.subset) (length_recognizedAmong_le h.symm.subset)

/-! ### Stacks -/

/-- The technologies of a text are those of its parts; an empty text has none. -/
theorem technologies_of_text {v : Value} {s : String} (h : v.text? = some s) :
    technologies v = .ok (recognizedAmong (Text.splitTrimmed isSeparator s)) := by
  unfold technologies listed
  split
  · rw [h]
    rfl
  · next hempty =>
    have hs : s = "" := by
      cases v with
      | text t =>
        cases h
        simpa [Value.truthy] using hempty
      | label l => exact absurd rfl hempty
      | _ => cases h
    subst hs
    rfl

theorem technologies_of_items {v : Value} {items : List Value} (h : v.items? = some items) :
    technologies v = .ok (recognizedAmong (items.map Value.plain)) := by
  have hstack : v = .list items ∨ v = .tuple items := by
    cases v with
    | list xs => exact .inl (congrArg Value.list (Option.some.inj h))
    | tuple xs => exact .inr (congrArg Value.tuple (Option.some.inj h))
    | _ => cases h
  rcases hstack with rfl | rfl <;> cases items <;> rfl

/-! ### Terms -/

theorem le_complexityBase (v : Value) : 40 ≤ complexityBase v := by
  unfold complexityBase
  split <;> decide

theorem typeBonus_le (v : Value) : typeBonus v ≤ 10 := by
  unfold typeBonus
  split <;> decide

theorem featureBonus_of_items {v : Value} {items : List Value} (h : v.items? = some items) :
    featureBonus v = min 25 (items.length * 5) := by
  rw [featureBonus, h]

theorem featureBonus_le (v : Value) : featureBonus v ≤ 25 := by
  unfold featureBonus
  split
  · exact Nat.min_le_left _ _
  · decide

/-- Like a feature, a technology is worth five points, and no more than two of them count. -/
theorem technologyBonus_eq (names : List String) :
    technologyBonus names = min 10 (names.length * 5) := by
  unfold technologyBonus
  match names.length with
  | 0 => rfl
  | 1 => rfl
  | n + 2 =>
    have hmany : 10 ≤ (n + 2) * 5 := by omega
    exact (Nat.min_eq_left hmany).symm

/-! ### Scores -/

/-- A score is the sum of its terms, cut at one hundred. -/
theorem confidence_eq_ok_iff {context : Fields} {n : Nat} :
    confidence context = .ok n ↔ ∃ names, technologies (context.get "tech_stack") = .ok names ∧
      n = min 100 (complexityBase (context.get "complexity_level") +
        typeBonus (context.get "project_type") + featureBonus (context.get "detected_features") +
          technologyBonus names) := by
  unfold confidence
  cases technologies (context.get "tech_stack") <;> simp [Except.map, eq_comm]

/-- The contexts hold the same but for one name. -/
def SameBut (name : String) (context context' : Fields) : Prop :=
  ∀ x, x ≠ name → context'.get? x = context.get? x

theorem SameBut.get_eq {name x : String} {context context' : Fields}
    (h : SameBut name context context') (hx : x ≠ name) : context'.get x = context.get x := by
  rw [Fields.get, Fields.get, h x hx]

/-- Ways for a context to tell more than another one: it lists further features or technologies,
wherever they stand, or the text of its technologies goes on after a separator. -/
inductive Richer (context context' : Fields) : Prop
  | features {items items' : List Value} (hrest : SameBut "detected_features" context context')
      (h : (context.get "detected_features").items? = some items)
      (h' : (context'.get "detected_features").items? = some items')
      (hmore : items.Sublist items') : Richer context context'
  | technologies {items items' : List Value} (hrest : SameBut "tech_stack" context context')
      (h : (context.get "tech_stack").items? = some items)
      (h' : (context'.get "tech_stack").items? = some items')
      (hmore : items.Sublist items') : Richer context context'
  | line {s blanks more : String} {separator : Char}
      (hrest : SameBut "tech_stack" context context')
      (h : (context.get "tech_stack").text? = some s)
      (h' : (context'.get "tech_stack").text? =
        some (s ++ blanks ++ String.singleton separator ++ more))
      (hseparator : isSeparator separator) (hblanks : ∀ c ∈ blanks.toList, Text.isBlank c) :
      Richer context context'

/-- A context that lists the features or the technologies of another one in another order. -/
inductive Rearranged (context context' : Fields) : Prop
  | features {items items' : List Value} (hrest : SameBut "detected_features" context context')
      (h : (context.get "detected_features").items? = some items)
      (h' : (context'.get "detected_features").items? = some items')
      (hperm : items.Perm items') : Rearranged context context'
  | technologies {items items' : List Value} (hrest : SameBut "tech_stack" context context')
      (h : (context.get "tech_stack").items? = some items)
      (h' : (context'.get "tech_stack").items? = some items')
      (hperm : items.Perm items') : Rearranged context context'

theorem not_isSeparator_of_isBlank {c : Char} (h : Text.isBlank c) : isSeparator c = false := by
  rw [Bool.eq_false_iff]
  intro hc
  simp only [isSeparator, Bool.or_eq_true, beq_iff_eq] at hc
  rcases hc with ((rfl | rfl) | rfl) | rfl <;> exact absurd h (by decide)

section

variable {context context' : Fields} {n : Nat}

/-- Only the features differ. -/
theorem confidence_of_features (hrest : SameBut "detected_features" context context')
    (h : confidence context = .ok n) : ∃ base,
      n = min 100 (base + featureBonus (context.get "detected_features")) ∧
      confidence context' =
        .ok (min 100 (base + featureBonus (context'.get "detected_features"))) := by
  obtain ⟨names, hnames, rfl⟩ := confidence_eq_ok_iff.mp h
  refine ⟨complexityBase (context.get "complexity_level") +
    typeBonus (context.get "project_type") + technologyBonus names, by omega, ?_⟩
  refine confidence_eq_ok_iff.mpr ⟨names, ?_, ?_⟩
  · rw [hrest.get_eq (by decide), hnames]
  · rw [hrest.get_eq (by decide : "complexity_level" ≠ _),
      hrest.get_eq (by decide : "project_type" ≠ _)]
    omega

/-- Only the technologies differ. -/
theorem confidence_of_technologies {names names' : List String}
    (hrest : SameBut "tech_stack" context context')
    (hnames : technologies (context.get "tech_stack") = .ok names)
    (hnames' : technologies (context'.get "tech_stack") = .ok names')
    (h : confidence context = .ok n) : ∃ base, n = min 100 (base + technologyBonus names) ∧
      confidence context' = .ok (min 100 (base + technologyBonus names')) := by
  obtain ⟨found, hfound, rfl⟩ := confidence_eq_ok_iff.mp h
  rw [hnames] at hfound
  cases hfound
  refine ⟨_, rfl, confidence_eq_ok_iff.mpr ⟨names', hnames', ?_⟩⟩
  rw [hrest.get_eq (by decide : "complexity_level" ≠ _),
    hrest.get_eq (by decide : "project_type" ≠ _),
    hrest.get_eq (by decide : "detected_features" ≠ _)]

theorem confidence_mono_of_names {names names' : List String}
    (hrest : SameBut "tech_stack" context context')
    (hnames : technologies (context.get "tech_stack") = .ok (recognizedAmong names))
    (hnames' : technologies (context'.get "tech_stack") = .ok (recognizedAmong names'))
    (hmore : names ⊆ names') (h : confidence context = .ok n) :
    ∃ m, confidence context' = .ok m ∧ n ≤ m := by
  obtain ⟨base, rfl, hscore⟩ := confidence_of_technologies hrest hnames hnames' h
  have hlength := length_recognizedAmong_le hmore
  refine ⟨_, hscore, ?_⟩
  rw [technologyBonus_eq, technologyBonus_eq]
  omega

theorem Richer.confidence_le (hricher : Richer context context') (h : confidence context = .ok n) :
    ∃ m, confidence context' = .ok m ∧ n ≤ m := by
  cases hricher with
  | features hrest hitems hitems' hmore =>
    obtain ⟨base, rfl, hscore⟩ := confidence_of_features hrest h
    rw [featureBonus_of_items hitems'] at hscore
    rw [featureBonus_of_items hitems]
    have hlength := hmore.length_le
    exact ⟨_, hscore, by omega⟩
  | technologies hrest hitems hitems' hmore =>
    exact confidence_mono_of_names hrest (technologies_of_items hitems)
      (technologies_of_items hitems') (hmore.map Value.plain).subset h
  | line hrest htext htext' hseparator hblanks =>
    have hparts := technologies_of_text htext'
    rw [Text.splitTrimmed_append hseparator fun c hc =>
      ⟨hblanks c hc, not_isSeparator_of_isBlank (hblanks c hc)⟩] at hparts
    exact confidence_mono_of_names hrest (technologies_of_text htext) hparts
      (List.subset_append_left _ _) h

theorem Rearranged.confidence_eq (hother : Rearranged context context')
    (h : confidence context = .ok n) : confidence context' = .ok n := by
  cases hother with
  | features hrest hitems hitems' hperm =>
    obtain ⟨base, rfl, hscore⟩ := confidence_of_features hrest h
    rw [hscore, featureBonus_of_items hitems', featureBonus_of_items hitems, hperm.length_eq]
  | technologies hrest hitems hitems' hperm =>
    obtain ⟨base, rfl, hscore⟩ := confidence_of_technologies hrest (technologies_of_items hitems)
      (technologies_of_items hitems') h
    have hlength := length_recognizedAmong_perm (hperm.map Value.plain)
    rw [hscore, technologyBonus_eq, technologyBonus_eq, hlength]

end

/-- A score lies between forty and one hundred. A context that tells more has a score too, which is
no lower, and one that tells the same in another order has the same score. -/
theorem confidence_grows {context : Fields} {n : Nat} (h : confidence context = .ok n) :
    40 ≤ n ∧ n ≤ 100 ∧
      (∀ context', Richer context context' → ∃ m, confidence context' = .ok m ∧ n ≤ m) ∧
      ∀ context', Rearranged context context' → confidence context' = .ok n := by
  refine ⟨?_, ?_, fun _ hricher => hricher.confidence_le h,
    fun _ hother => hother.confidence_eq h⟩
  all_goals
    obtain ⟨names, -, rfl⟩ := confidence_eq_ok_iff.mp h
    have hbase := le_complexityBase (context.get "complexity_level")
    omega

/-- A second technology after white space and a separator, and the same features the other way
round. -/
theorem confidence_grows_line :
    let context : Fields := [("complexity_level", .text " Medium"),
      ("detected_features", .list [.text "auth", .int 7]), ("tech_stack", .text "React")]
    let richer := context.put "tech_stack"
      (.text ("React" ++ "\t " ++ String.singleton '+' ++ "REACT,redis"))
    let rearranged := context.put "detected_features" (.list [.int 7, .text "auth"])
    confidence context = .ok 65 ∧ Richer context richer ∧ Rearranged context rearranged ∧
      40 ≤ 65 ∧ 65 ≤ 100 ∧ (∃ m, confidence richer = .ok m ∧ 65 ≤ m) ∧
      confidence rearranged = .ok 65 := by
  intro context richer rearranged
  have hscore : confidence context = .ok 65 := by decide +kernel
  have hblanks : ∀ c ∈ "\t ".toList, Text.isBlank c := List.all_eq_true.mp (by decide)
  have hricher : Richer context richer :=
    .line (fun _ hx => Fields.get?_put_of_ne context _ hx) rfl rfl (by decide) hblanks
  have hrearranged : Rearranged context rearranged :=
    .features (fun _ hx => Fields.get?_put_of_ne context _ hx) rfl rfl (.swap _ _ _)
  obtain ⟨hlow, hhigh, hgrows, hkept⟩ := confidence_grows hscore
  exact ⟨hscore, hricher, hrearranged, hlow, hhigh, hgrows richer hricher,
    hkept rearranged hrearranged⟩

end Promptsmith.Score
