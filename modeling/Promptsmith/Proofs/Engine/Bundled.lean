import Promptsmith.Proofs.Analysis.Merging
import Promptsmith.Proofs.Catalog.Choice
import Promptsmith.Proofs.Engine.Bodies
import Promptsmith.Proofs.Engine.Describing
import Promptsmith.Proofs.Engine.Noting
import Promptsmith.Proofs.Host.Markup

/-!
# Describing a project to the bundled templates

On the bundled bodies and variants every description leads to a prompt: analysis knows no other
archetypes than those that have bodies, each of them has variants, and every body of a variant is
there, parses and can be scored. What is noted on the way every console takes, but for what is noted
of feedback. Where no text that a caller gives has a brace, the prompt has none.
-/
namespace Promptsmith

/-! ### What analysis finds -/

namespace Analysis

theorem mem_of_mem_found {table : List (String × List String)} {text : List Char} {x : String}
    (h : x ∈ found table text) : ∃ entry ∈ table, x = entry.1 := by
  obtain ⟨entry, hentry, rfl⟩ := List.mem_map.mp h
  exact ⟨entry, List.mem_of_mem_filter hentry, rfl⟩

/-- What holds of every keyword holds of the features of an intent, if it holds of the caller's. -/
theorem forall_features {P : String → Prop} (hkeywords : ∀ entry ∈ featureKeywords, P entry.1)
    (hauth : P "auth") {description : String} {features tech : List String}
    (h : ∀ s ∈ features, P s) : ∀ s ∈ (analyze description features tech).features, P s := by
  intro s hs
  have hmerged (hs : s ∈ merge features (featuresIn (Text.lower description.toList))) : P s := by
    rcases mem_merge_iff.mp hs with hs | hs
    · exact h s hs
    · obtain ⟨entry, hentry, rfl⟩ := mem_of_mem_found hs
      exact hkeywords entry hentry
  dsimp only [analyze] at hs
  split at hs
  · rcases List.mem_append.mp hs with hs | hs
    · exact hmerged hs
    · rwa [List.mem_singleton.mp hs]
  · exact hmerged hs

theorem forall_techPreferences {P : String → Prop}
    (hkeywords : ∀ entry ∈ techKeywords, P entry.1) {description : String}
    {features tech : List String} (h : ∀ s ∈ tech, P s) :
    ∀ s ∈ (analyze description features tech).techPreferences, P s := by
  intro s hs
  rcases mem_merge_iff.mp hs with hs | hs
  · obtain ⟨entry, hentry, rfl⟩ := mem_of_mem_found hs
    exact hkeywords entry hentry
  · exact h s hs

end Analysis

theorem Archetype.untagged_name (a : Archetype) : Untagged a.name := by
  cases a <;> decide +kernel

theorem Complexity.untagged_name (c : Complexity) : Untagged c.name := by
  cases c <;> decide +kernel

/-! ### Plain contexts -/

theorem Fields.plain_get {fs : Fields} (h : ∀ e ∈ fs, e.2.Plain) (name : String) :
    (fs.get name).Plain := by
  rw [get, get?]
  cases hlookup : List.lookup name fs with
  | none => exact .null
  | some v =>
    obtain ⟨before, after, hsplit, -⟩ := List.lookup_eq_some_iff.mp hlookup
    exact h (name, v) (by simp [hsplit])

/-- What is no field of a context can only be a flag. -/
theorem mem_extras_contextFor {i : Intent} {name toolVersion today : String} {stack : Value}
    {entry : String × Value} (h : entry ∈ (contextFor i name toolVersion stack today).extras) :
    entry.2 = .bool true := by
  obtain ⟨hentry, hextra⟩ := List.mem_filter.mp h
  rcases Fields.mem_putAll ((Fields.mem_putAll hentry).resolve_right nofun) with hbase | hflag
  · have hnames : ∀ e ∈ contextBase i name toolVersion (stackFor i stack) today,
        e.1 ∈ PromptContext.names := by
      simp [contextBase, PromptContext.names]
    exact absurd (hnames entry hbase) (of_decide_eq_true hextra)
  · obtain ⟨feature, -, rfl⟩ := List.mem_map.mp hflag
    rfl

/-- The context of an intent holds no numbers. -/
theorem spelt_contextFor (i : Intent) (name toolVersion : String) (stack : Value)
    (today : String) : (contextFor i name toolVersion stack today).toFields.Spelt := by
  refine PromptContext.spelt_toFields ?_
  intro entry hentry
  rw [mem_extras_contextFor hentry]
  exact Value.spelt_bool true

theorem Archetype.mainPath_mem (a : Archetype) : ∃ body, (a.mainPath, body) ∈ Bodies.all := by
  have hmem : a.mainPath ∈ Bodies.all.map Prod.fst := by cases a <;> decide +kernel
  obtain ⟨⟨path, body⟩, hbody, rfl⟩ := List.mem_map.mp hmem
  exact ⟨body, hbody⟩

namespace Catalog

theorem variants_bundled_ne_nil (a : Archetype) : bundled.variants a.name ≠ [] := by
  rw [← List.isEmpty_eq_false_iff]
  cases a <;> decide +kernel

/-- The body of a bundled variant is bundled, and its id is that of no other kind of body. -/
theorem variants_bundled (a : Archetype) : ∀ v ∈ bundled.variants a.name,
    v.bodyPath ∈ Bodies.all.map Prod.fst ∧ v.id ≠ a.mainId ∧
      v.id ≠ (Variant.default a.name).id ∧ Untagged v.id := by
  cases a <;> decide +kernel

variable {c : Catalog}

theorem SameButWeights.variants_ne_nil (h : c.SameButWeights bundled) (a : Archetype) :
    c.variants a.name ≠ [] := by
  intro hnil
  have hlists := h a.name
  rw [hnil, List.map_nil, eq_comm, List.map_eq_nil_iff] at hlists
  exact variants_bundled_ne_nil a hlists

/-- Weights are neither part of a variant's id nor of its body. -/
theorem SameButWeights.variants (h : c.SameButWeights bundled) (a : Archetype) {v : Variant}
    (hv : v ∈ c.variants a.name) : (∃ body, (v.bodyPath, body) ∈ Bodies.all) ∧
      v.id ≠ a.mainId ∧ v.id ≠ (Variant.default a.name).id ∧ Untagged v.id := by
  have hmem : v.unweighted ∈ (bundled.variants a.name).map Variant.unweighted :=
    h a.name ▸ List.mem_map_of_mem hv
  obtain ⟨w, hw, hvw⟩ := List.mem_map.mp hmem
  obtain ⟨hbody, hmain, hdefault, huntagged⟩ := variants_bundled a w hw
  rw [Variant.id_of_unweighted hvw] at hmain hdefault huntagged
  rw [Variant.bodyPath_of_unweighted hvw] at hbody
  obtain ⟨⟨path, body⟩, hbody, heq⟩ := List.mem_map.mp hbody
  exact ⟨⟨body, heq ▸ hbody⟩, hmain, hdefault, huntagged⟩

end Catalog

/-! ### Generation -/

namespace Engine

variable {e : Engine}

theorem variantFor_mem (hcatalog : e.catalog.SameButWeights .bundled) (a : Archetype)
    (s : Selection) : e.variantFor a s ∈ e.catalog.variants a.name := by
  obtain ⟨i, hbest⟩ := exists_best_chosen (Text.lowered a.name)
    { s with intent := { s.intent with archetype := a.name } } (hcatalog.variants_ne_nil a)
  have hchosen := e.catalog.select_eq_chosen_variants
    { s with intent := { s.intent with archetype := a.name } }
  rw [variantFor, hchosen]
  exact hbest.mem

/-- Base guidance is there and has no brace. -/
theorem exists_sections {s : Store} (hserves : s.Serves Bodies.all) {paths : List String}
    (hpaths : ∀ path ∈ paths, path ∈ defaultBaseFiles) :
    ∃ bodies, s.sections paths = .ok bodies ∧ ∀ body ∈ bodies, Braceless body := by
  induction paths with
  | nil => exact ⟨[], rfl, nofun⟩
  | cons path paths ih =>
    rw [List.forall_mem_cons] at hpaths
    obtain ⟨body, hbody, hbraceless⟩ := Bodies.exists_base hpaths.1
    obtain ⟨bodies, hbodies, hall⟩ := ih hpaths.2
    refine ⟨body :: bodies, ?_, List.forall_mem_cons.mpr ⟨hbraceless, hall⟩⟩
    have hpresent := Store.present_eq_ok_iff.mpr (hserves.has _ hbody)
    have hfetch := Store.fetch_eq_body_iff.mpr (hserves.read _ hbody)
    refine bind_eq_ok_iff.mpr ⟨true, hpresent, ?_⟩
    refine bind_eq_ok_iff.mpr ⟨.ok body, hfetch, ?_⟩
    exact bind_eq_ok_iff.mpr ⟨bodies, hbodies, rfl⟩

theorem exists_given (hserves : e.store.Serves Bodies.all)
    (hbase : e.settings.baseFiles = defaultBaseFiles) (body : String) (values : Fields) :
    ∃ given, e.valuesFor body values = .ok given ∧
      ((∀ e ∈ values, e.2.Plain) → ∀ e ∈ given, e.2.Plain) := by
  unfold valuesFor
  split
  · obtain ⟨bodies, hbodies, hall⟩ := exists_sections hserves (fun path h => h)
    have hguidance : e.guidance = .ok (String.intercalate baseSeparator bodies) := by
      rw [guidance, hbase, hbodies]
      rfl
    refine ⟨_, bind_eq_ok_iff.mpr ⟨_, hguidance, rfl⟩, ?_⟩
    intro hplain f hf
    rcases Fields.mem_put hf with hf | rfl
    · exact hplain f hf
    · exact .text (braceless_intercalate (by decide +kernel) hall)
  · exact ⟨values, rfl, id⟩

section

variable [Host]

theorem exists_described {values : Fields} (hspelt : values.Spelt) (h : ∀ f, ¬Unscorable values f)
    (a : Archetype) (templateId prompt : String) :
    ∃ r, e.described a templateId prompt values = .ok r := by
  cases hr : e.described a templateId prompt values with
  | ok r => exact ⟨r, rfl⟩
  | error f => exact absurd ((described_error_iff hspelt).mp hr) (h f)

theorem archetype_of_described {a : Archetype} {templateId prompt : String} {values : Fields}
    {r : Rendering} (h : e.described a templateId prompt values = .ok r) :
    r.metadata.archetype = a.name := by
  obtain ⟨confidence, -, h⟩ := bind_eq_ok_iff.mp h
  obtain ⟨features, -, h⟩ := bind_eq_ok_iff.mp h
  cases h
  rfl

/-- A prompt from a body of a variant that is listed for the archetype: neither from the main body
nor from a variant made up for want of one. -/
structure Served (e : Engine) (a : Archetype) (r : Rendering) (prompt : String) : Prop where
  succeeds : r.prompt? = some prompt
  archetype : r.metadata.archetype = a.name
  variant : ∃ v ∈ e.catalog.variants a.name, r.metadata.templateId = v.id
  not_main : r.metadata.templateId ≠ a.mainId
  not_default : r.metadata.templateId ≠ (Variant.default a.name).id

theorem answer_served (hserves : e.store.Serves Bodies.all)
    (hbase : e.settings.baseFiles = defaultBaseFiles)
    (hcatalog : e.catalog.SameButWeights .bundled) (a : Archetype) {values : Fields}
    (hvalues : Contextual values) (hspelt : values.Spelt) (s : Selection) :
    ∃ r prompt, e.answer a.name values (some s) = .ok r ∧ e.Served a r prompt ∧
      ((∀ e ∈ values, e.2.Plain) → Braceless prompt) := by
  have hlisted := variantFor_mem hcatalog a s
  obtain ⟨⟨body, hbody⟩, hmain, hdefault, -⟩ := hcatalog.variants a hlisted
  obtain ⟨main, hmainBody⟩ := a.mainPath_mem
  obtain ⟨nodes, hnodes, hliterals⟩ := Template.exists_parse_of_isTidy (Bodies.isTidy_of_mem hbody)
  obtain ⟨given, hgiven, hplain⟩ := exists_given hserves hbase body values
  have hscorable (f : Failure) : ¬Unscorable given f := fun h =>
    hvalues.not_unscorable f (h.congr (get_valuesFor hgiven (by decide)).symm
      (get_valuesFor hgiven (by decide)).symm)
  have hgivenSpelt := spelt_valuesFor hgiven hspelt
  obtain ⟨r, hr⟩ := exists_described (e := e) hgivenSpelt hscorable a (e.variantFor a s).id
    (Template.evaluate nodes given)
  obtain ⟨houtcome, htemplate⟩ := described_ok hr
  refine ⟨r, Template.evaluate nodes given, ?_, ?_, ?_⟩
  · have hfound := mainFor_eq_some_iff.mpr ⟨a.ofHint?_name, hserves.has _ hmainBody⟩
    have hchosen : e.chosenBody a (some s) = .ok _ :=
      chosenBody_eq_ok_iff.mpr (.variant (hserves.has _ hbody))
    have hfetch := Store.fetch_eq_body_iff.mpr (hserves.read _ hbody)
    have hrender : Template.render body given = .ok (Template.evaluate nodes given) :=
      Template.render_eq_ok_iff.mpr ⟨nodes, hnodes, rfl⟩
    refine bind_eq_ok_iff.mpr ⟨some a, hfound, ?_⟩
    refine bind_eq_ok_iff.mpr ⟨_, hchosen, ?_⟩
    refine bind_eq_ok_iff.mpr ⟨.ok body, hfetch, ?_⟩
    refine bind_eq_ok_iff.mpr ⟨given, hgiven, ?_⟩
    rw [hrender]
    exact bind_eq_ok_iff.mpr ⟨(), Template.write_shown hgivenSpelt body, hr⟩
  · exact {
      succeeds := by rw [Rendering.prompt?, houtcome]
      archetype := archetype_of_described hr
      variant := ⟨_, hlisted, htemplate⟩
      not_main := htemplate ▸ hmain
      not_default := htemplate ▸ hdefault }
  · intro hvalues
    exact Template.braceless_evaluate (Fields.plain_get (hplain hvalues)) hliterals

omit [Host] in
theorem markup_successNote {archetype templateId : String} (ha : Untagged archetype)
    (ht : Untagged templateId) (size : Nat) : Markup (successNote archetype templateId size) := by
  have hfront : "[cyan]Generated prompt for[/cyan] [bold]" =
      "[" ++ "cyan" ++ "]" ++ "Generated prompt for" ++ "[/" ++ "cyan" ++ "]" ++ " " ++
        "[" ++ "bold" ++ "]" := by simp
  have hback : "[/bold] using " = "[/" ++ "bold" ++ "]" ++ " using " := by simp
  have hcyan : Markup ("[" ++ "cyan" ++ "]" ++ "Generated prompt for" ++ "[/" ++ "cyan" ++ "]") :=
    .styled_untagged (by decide) (by decide)
  have hbold : Markup ("[" ++ "bold" ++ "]" ++ archetype ++ "[/" ++ "bold" ++ "]") :=
    .styled_untagged (by decide) ha
  have hplain (s : String) (h : Untagged s) : Markup s := h.markup
  have hall := ((((hcyan.append (hplain " " (by decide))).append hbold).append
    (hplain " using " (by decide))).append ht.markup).append
      (((hplain " (" (by decide)).append (untagged_toString size).markup).append
        (hplain " chars)" (by decide)))
  unfold successNote
  rw [hfront, hback]
  simp only [String.append_assoc] at hall ⊢
  exact hall

omit [Host] in
/-- From the bundled bodies a generation notes nothing but success and what it ignores of the
feedback. -/
theorem noted_bundled (hserves : e.store.Serves Bodies.all)
    (hbase : e.settings.baseFiles = defaultBaseFiles)
    (hcatalog : e.catalog.SameButWeights .bundled) {a : Archetype} {s : Selection} {text : String}
    (h : e.Noted a.name (some s) text) :
    (∃ f ∈ s.feedback, text = Catalog.ignoredNote f.variantId) ∨
      ∃ templateId size, Untagged templateId ∧ text = successNote a.name templateId size := by
  have hlisted := variantFor_mem hcatalog a s
  obtain ⟨⟨body, hbody⟩, -, -, huntagged⟩ := hcatalog.variants a hlisted
  have hvariant {b : Archetype} {templateId path : String}
      (hfrom : e.AnsweredFrom a.name (some s) b templateId path) :
      b = a ∧ templateId = (e.variantFor a s).id ∧ path = (e.variantFor a s).bodyPath := by
    obtain rfl := Archetype.eq_of_named hfrom.named
    have hchosen : e.AnsweredFrom b.name (some s) b _ _ :=
      ⟨hfrom.named, hfrom.main, .variant (hserves.has _ hbody)⟩
    exact ⟨rfl, hfrom.unique hchosen⟩
  cases h with
  | @scan b message hb hread =>
    obtain ⟨main, hmain⟩ := b.mainPath_mem
    rw [hserves.read _ hmain] at hread
    cases hread
  | @ignored s' f hselection hf =>
    cases hselection
    exact .inl ⟨f, hf, rfl⟩
  | @missing b s' hb hselection hmissing =>
    cases hselection
    obtain rfl := Archetype.eq_of_named hb
    rw [hserves.has _ hbody] at hmissing
    cases hmissing
  | skipped hpath hread =>
    rw [hbase] at hpath
    obtain ⟨body, hbody, -⟩ := Bodies.exists_base hpath
    rw [hserves.read _ hbody] at hread
    cases hread
  | failed hfrom hflaw =>
    obtain ⟨-, -, rfl⟩ := hvariant hfrom
    obtain ⟨nodes, hnodes, -⟩ := Template.exists_parse_of_isTidy (Bodies.isTidy_of_mem hbody)
    exact absurd ⟨body, nodes, hserves.read _ hbody, hnodes⟩ hflaw.not_parses
  | succeeded size hfrom hparses =>
    obtain ⟨rfl, rfl, -⟩ := hvariant hfrom
    exact .inr ⟨_, size, huntagged, rfl⟩

/-- So a console that takes what is noted of ignored feedback takes all notes of a generation. -/
theorem heard_bundled [Console] (he : e.Sound) (hserves : e.store.Serves Bodies.all)
    (hbase : e.settings.baseFiles = defaultBaseFiles)
    (hcatalog : e.catalog.SameButWeights .bundled) (a : Archetype) {values : Fields}
    {s : Selection}
    (hfeedback : ∀ f ∈ s.feedback, Console.refusal? (Catalog.ignoredNote f.variantId) = none) :
    Heard ((generate a.name values (some s)).start e).2 := by
  refine heard_generate he ?_
  intro text htext
  rcases noted_bundled hserves hbase hcatalog htext with ⟨f, hf, rfl⟩ | ⟨id, size, hid, rfl⟩
  · exact hfeedback f hf
  · exact Console.takes (markup_successNote a.untagged_name hid size)

end

attribute [local instance] Console.quiet Host.plain

end Engine

end Promptsmith
