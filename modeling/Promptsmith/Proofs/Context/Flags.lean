import Promptsmith.Proofs.Engine.Describing
import Promptsmith.Proofs.Template.Lines

/-!
# The flags of features

A context is built from an intent, a name, a version, technologies and a date. Each feature sets a
flag beside these, under a name that no other feature has and that is none of theirs. So the flag of
a name is set just when the intent has the feature, whether the flag is a field of the context or
not, and a block that is guarded by it is rendered by the features alone.
-/
namespace Promptsmith

/-! ### Names of flags -/

theorem flagName_injective : Function.Injective flagName := by
  intro f g h
  exact (String.append_right_inj _).mp ((String.append_left_inj _).mp h)

theorem mem_map_flagName_iff {features : List String} {f : String} :
    flagName f ∈ features.map flagName ↔ f ∈ features :=
  List.mem_map_of_injective flagName_injective

/-- No flag is a loop variable. -/
theorem ofName?_flagName (f : String) : Template.LoopVariable.ofName? (flagName f) = none := by
  refine List.find?_eq_none.mpr ?_
  rintro v - hv
  have hname : v.name = flagName f := eq_of_beq hv
  have hhead := head?_flagName f
  rw [← hname] at hhead
  cases v <;> exact absurd hhead (by decide)

/-! ### Flags of a context -/

theorem PromptContext.get?_extrasOf (fs : Fields) {x : String} (hx : x ∉ names) :
    (extrasOf fs).get? x = fs.get? x := by
  induction fs with
  | nil => rfl
  | cons e fs ih =>
    obtain ⟨n, v⟩ := e
    by_cases hn : n ∈ names
    · have hne : x ≠ n := fun h => hx (h ▸ hn)
      rw [extrasOf, List.filter_cons_of_neg (by simpa using hn), Fields.get?_cons, if_neg hne]
      exact ih
    · rw [extrasOf, List.filter_cons_of_pos (by simpa using hn), Fields.get?_cons, Fields.get?_cons]
      exact congrArg _ ih

theorem Fields.get?_append_of_notMem {fs : Fields} {x : String} (hx : x ∉ fs.map Prod.fst)
    (more : Fields) : get? (fs ++ more) x = more.get? x := by
  induction fs with
  | nil => rfl
  | cons e fs ih =>
    rw [List.map_cons, List.mem_cons, not_or] at hx
    rw [List.cons_append, get?_cons, if_neg hx.1, ih hx.2]

theorem PromptContext.get?_toFields (c : PromptContext) {x : String} (hx : x ∉ names) :
    c.toFields.get? x = c.extras.get? x :=
  Fields.get?_append_of_notMem hx c.extras

section

variable {i : Intent} {name toolVersion today : String} {stack : Value} {kept : TechStack}

theorem get?_contextBase {x : String} (hx : x ∉ PromptContext.names) (stack : Value) :
    (contextBase i name toolVersion stack today).get? x = none := by
  have hbase : x ∉ (contextBase i name toolVersion stack today).map Prod.fst :=
    fun h => hx (List.mem_append_left
      ["has_payment_feature", "has_billing_feature", "has_search_feature"] h)
  exact Fields.get?_append_of_notMem hbase []

/-- A name that starts like a flag stands for what the features make of it, be it a field or not. -/
theorem get_toFields_flag {x : String} (hx : x.toList.head? = some 'h') :
    ({ contextFor i name toolVersion stack today with techStack := kept } :
      PromptContext).toFields.get x = PromptContext.flag (i.flag? x) := by
  by_cases hfield : x ∈ PromptContext.names
  · simp only [PromptContext.names, List.mem_cons, List.not_mem_nil, or_false] at hfield
    rcases hfield with rfl | rfl | rfl | rfl | rfl | rfl | rfl | rfl | rfl | rfl
    -- The fields before the flags start with other letters.
    iterate 7 exact absurd hx (by decide)
    all_goals rfl
  · rw [Fields.get, PromptContext.get?_toFields _ hfield]
    change ((PromptContext.extrasOf (contextFields i (.text name) toolVersion stack .null today
      [])).get? x).getD .null = _
    rw [PromptContext.get?_extrasOf _ hfield, get?_contextFields, get?_contextBase hfield, Intent.flag?]
    split <;> rfl

end

/-- The values tell by its flag whether a feature is listed. -/
def Fields.Flags (values : Fields) (features : List String) : Prop :=
  ∀ f, values.get (flagName f) = if f ∈ features then .bool true else .null

theorem flags_contextFor (i : Intent) (name toolVersion today : String) (stack : Value)
    (kept : TechStack) :
    ({ contextFor i name toolVersion stack today with techStack := kept } :
      PromptContext).toFields.Flags i.features := by
  intro f
  rw [get_toFields_flag (head?_flagName f), Intent.flag?]
  simp only [mem_map_flagName_iff]
  split <;> rfl

/-! ### Blocks that are guarded by a flag -/

namespace Template

/-- A block of whole lines that is guarded by the flag of a feature. -/
def guardedLines (kind : BlockKind) (f above body below : String) : String :=
  above ++ tagLine "" (.opening kind (flagName f)) "" ++ body ++ tagLine "" (.closing kind) "" ++ below

/-- Blocks that are guarded by the flag of a feature, wherever they stand, are rendered by whether
the feature is listed. If the flag is a name then a text can have such blocks. -/
structure Guards (values : Fields) (features : List String) (f : String) : Prop where
  shown : ∀ scopes body, (Node.block .when (flagName f) body).render values scopes =
    if f ∈ features then renderAll values scopes body else ""
  hidden : ∀ scopes body, (Node.block .unless (flagName f) body).render values scopes =
    if f ∈ features then "" else renderAll values scopes body
  shownLines : isName (flagName f).toList → ∀ {above body below a b c}, LineComplete above a →
    LineComplete body b → parse below = .ok c →
      render (guardedLines .when f above body below) values = .ok
        (evaluate a values ++ (if f ∈ features then evaluate b values else "") ++ evaluate c values)
  hiddenLines : isName (flagName f).toList → ∀ {above body below a b c}, LineComplete above a →
    LineComplete body b → parse below = .ok c →
      render (guardedLines .unless f above body below) values = .ok
        (evaluate a values ++ (if f ∈ features then "" else evaluate b values) ++ evaluate c values)

section

variable {values : Fields} {features : List String}

theorem truthy_lookup_flagName (h : values.Flags features) (f : String) (scopes : List Frame) :
    (lookup values scopes (flagName f)).truthy = decide (f ∈ features) := by
  have hlookup : lookup values scopes (flagName f) = values.get (flagName f) := by
    simp only [lookup, ofName?_flagName]
  rw [hlookup, h f]
  split
  · next hf => exact (decide_eq_true hf).symm
  · next hf => exact (decide_eq_false hf).symm

theorem render_guardedLines {kind : BlockKind} {f above body below : String} {a b c : List Node}
    (hname : isName (flagName f).toList) (habove : LineComplete above a)
    (hbody : LineComplete body b) (hbelow : parse below = .ok c) (values : Fields) :
    render (guardedLines kind f above body below) values = .ok (evaluate a values ++
      (Node.block kind (flagName f) b).render values [] ++ evaluate c values) := by
  have hnone : IsMargin "" := by decide
  rw [render, guardedLines, parse_block habove hbody hbelow kind hname hnone hnone hnone hnone]
  refine congrArg Except.ok ?_
  simp only [evaluate, renderAll_append, renderAll, String.append_assoc]

theorem guards_of_flags (h : values.Flags features) (f : String) : Guards values features f := by
  have hwhen (scopes : List Frame) (body : List Node) :
      (Node.block .when (flagName f) body).render values scopes =
        if f ∈ features then renderAll values scopes body else "" := by
    simp only [Node.render, truthy_lookup_flagName h, decide_eq_true_eq]
  have hunless (scopes : List Frame) (body : List Node) :
      (Node.block .unless (flagName f) body).render values scopes =
        if f ∈ features then "" else renderAll values scopes body := by
    simp only [Node.render, truthy_lookup_flagName h, decide_eq_true_eq]
  refine ⟨hwhen, hunless, ?_, ?_⟩
  · intro hname above body below a b c habove hbody hbelow
    rw [render_guardedLines hname habove hbody hbelow, hwhen]
    rfl
  · intro hname above body below a b c habove hbody hbelow
    rw [render_guardedLines hname habove hbody hbelow, hunless]
    rfl

end

end Template

/-! ### Building a context -/

/-- What a context is built from beside the intent. Technologies and the date may be left open. -/
structure Particulars where
  projectName : String
  toolVersion : String
  techStack : Option TechStack
  currentDate : Option String
  deriving DecidableEq, Repr

namespace Particulars

variable (p : Particulars) (i : Intent) (today : String)

def stackValue : Value :=
  (p.techStack.map TechStack.value).getD .null

def dateValue : Value :=
  (p.currentDate.map .text).getD .null

/-- The technologies given, or else those of the intent, or else the default ones. -/
def stackOf : TechStack :=
  p.techStack.getD (.names (if i.techPreferences.isEmpty then defaultStack else i.techPreferences))

/-- The date given, or else today; the empty text counts as none. -/
def dateOf : String :=
  match p.currentDate with
  | some date => if date = "" then today else date
  | none => today

end Particulars

theorem TechStack.check_value (stack : TechStack) : check stack.value = .valid stack := by
  cases stack with
  | line s => rfl
  | names ss =>
    rw [value, check_eq_valid (Value.isTexts_texts ss), Value.textItems_texts]

namespace Particulars

variable (p : Particulars) (i : Intent) (today : String)

theorem stackFor_stackValue : stackFor i p.stackValue = (p.stackOf i).value := by
  unfold stackValue stackOf
  rcases p.techStack with _ | s | ss <;> rfl

theorem contextFields_dateValue (name : Value) (toolVersion : String) (stack : Value) :
    contextFields i name toolVersion stack p.dateValue today [] =
      contextFields i name toolVersion stack .null (p.dateOf today) [] := by
  unfold dateValue dateOf
  cases p.currentDate with
  | none => rfl
  | some date =>
    by_cases hempty : date = ""
    · subst hempty
      rfl
    · simp [contextFields, Value.truthy, hempty]

theorem buildContext_eq_ok :
    buildContext i (.text p.projectName) p.toolVersion p.stackValue p.dateValue today [] =
      .ok { contextFor i p.projectName p.toolVersion p.stackValue (p.dateOf today) with
        techStack := p.stackOf i } := by
  have hstack : TechStack.check (stackFor i p.stackValue) = .valid (p.stackOf i) := by
    rw [stackFor_stackValue, TechStack.check_value]
  rw [buildContext, contextFields_dateValue]
  exact buildContext_of_check hstack

/-- What a context has of an intent and its particulars: the values that are derived from them, and
a flag for each feature. -/
structure Told (c : PromptContext) : Prop where
  projectName : c.toFields.get "project_name" = .text p.projectName
  projectType : c.toFields.get "project_type" = .text i.archetype
  complexity : c.toFields.get "complexity_level" = .text i.complexity.name
  features : c.toFields.get "detected_features" = .texts i.features
  stack : c.toFields.get "tech_stack" = (p.stackOf i).value
  toolVersion : c.toFields.get "tool_version" = .text p.toolVersion
  date : c.toFields.get "current_date" = .text (p.dateOf today)
  flag : c.toFields.Flags i.features
  guards : ∀ f, Template.Guards c.toFields i.features f

/-- Whatever an intent and its particulars are, a context is built. A flag is set in it just when
the feature is listed, no flag takes the place of another value, and the blocks that are guarded by
a flag are rendered by whether the feature is listed. -/
theorem buildContext_told : ∃ c,
    buildContext i (.text p.projectName) p.toolVersion p.stackValue p.dateValue today [] = .ok c ∧
      p.Told i today c := by
  have hflags := flags_contextFor i p.projectName p.toolVersion (p.dateOf today) p.stackValue
    (p.stackOf i)
  exact ⟨_, p.buildContext_eq_ok i today, rfl, rfl, rfl, rfl, rfl, rfl, rfl, hflags,
    Template.guards_of_flags hflags⟩

/-- A feature that sets a field of the context, and one that is missing. -/
theorem buildContext_told_payment :
    let i : Intent := ⟨"saas", ["payment", "auth"], .medium, 70, "", [], []⟩
    let p : Particulars := ⟨"Shop", "1.0.0", some (.line "React, Prisma"), none⟩
    let lines (kind : Template.BlockKind) (f : String) : String :=
      Template.guardedLines kind f "# Shop\n" "Use \x7b\x7btech_stack\x7d\x7d.\n" "End."
    ∃ c, buildContext i (.text p.projectName) p.toolVersion p.stackValue p.dateValue "2024-01-01"
        [] = .ok c ∧
      c.toFields.get "has_payment_feature" = .bool true ∧
      Template.render (lines .when "payment") c.toFields =
        .ok "# Shop\nUse React, Prisma.\nEnd." ∧
      Template.render (lines .when "search") c.toFields = .ok "# Shop\nEnd." ∧
      Template.render (lines .unless "search") c.toFields =
        .ok "# Shop\nUse React, Prisma.\nEnd." := by
  intro i p lines
  obtain ⟨c, hc, htold⟩ := p.buildContext_told i "2024-01-01"
  have habove : Template.LineComplete "# Shop\n" [.literal "# Shop\n"] :=
    ⟨Or.inr ⟨"# Shop".toList, by decide⟩, by cbv, by decide +kernel⟩
  have hbody : Template.LineComplete "Use \x7b\x7btech_stack\x7d\x7d.\n"
      [.literal "Use ", .variable "tech_stack", .literal ".\n"] :=
    ⟨Or.inr ⟨"Use \x7b\x7btech_stack\x7d\x7d.".toList, by decide⟩, by cbv, by decide +kernel⟩
  have hbelow : Template.parse "End." = .ok [.literal "End."] := by cbv
  have hstack : Template.lookup c.toFields [] "tech_stack" = .text "React, Prisma" :=
    htold.stack
  have hbodyText : Template.evaluate [.literal "Use ", .variable "tech_stack", .literal ".\n"]
      c.toFields = "Use React, Prisma.\n" := by
    simp only [Template.evaluate, Template.renderAll, Template.Node.render, hstack]
    rfl
  refine ⟨c, hc, htold.flag "payment", ?_, ?_, ?_⟩
  · rw [(htold.guards "payment").shownLines (by decide) habove hbody hbelow, hbodyText]
    rfl
  · rw [(htold.guards "search").shownLines (by decide) habove hbody hbelow]
    rfl
  · rw [(htold.guards "search").hiddenLines (by decide) habove hbody hbelow, hbodyText]
    rfl

end Particulars

end Promptsmith
