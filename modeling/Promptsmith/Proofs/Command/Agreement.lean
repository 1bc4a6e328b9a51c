import Promptsmith.Proofs.Command.Showing
import Promptsmith.Proofs.Engine.Bundled
import Promptsmith.Proofs.Files.Naming

/-!
# The command and the library agree

The command that generates from a description does what the library does with the same description:
it ends well just when the library has a prompt, prints that prompt, and otherwise shows the
library's error. Where the library fails instead of giving an error, as it does when the file system
cannot tell whether a body is there, the command fails the same way. The one thing that the command
may fail for on its own account is that the console refuses its summary of the result.
-/
namespace Promptsmith.Command

/-! ### Options -/

namespace GenerateOptions

variable {o : GenerateOptions} {c : Config}

/-- The options of the command as the library takes them. -/
def fields (o : GenerateOptions) (c : Config) : Fields := [
  ("project_name", (o.name.map Value.text).getD .null),
  ("detected_features", .texts (Text.items (o.features.getD ""))),
  ("tech_stack", o.stack),
  ("user_experience", .label (.experience (o.experience.getD c.experience))),
  ("development_phase", .label (.phase (o.phase.getD c.phase)))]

/-- The archetype that analysis finds. -/
def found (o : GenerateOptions) : Archetype :=
  Analysis.identify (Text.lower o.description.toList)

/-- The archetype that is forced, or else the one that analysis finds. -/
def kind (o : GenerateOptions) : Archetype :=
  o.archetype.getD o.found

theorem archetype_intent (o : GenerateOptions) : o.intent.archetype = o.kind.name := by
  unfold intent kind
  cases o.archetype <;> rfl

theorem textItems_stack (o : GenerateOptions) :
    o.stack.textItems = Text.items (o.tech.getD "") := by
  unfold stack
  split
  · next h => rw [h]; rfl
  · exact Value.textItems_texts _

theorem atMostTexts_stack (o : GenerateOptions) : o.stack.AtMostTexts := by
  unfold stack
  split
  · exact .inl rfl
  · exact .inr (Value.isTexts_texts _)

theorem wellGiven_fields (o : GenerateOptions) (c : Config) : WellGiven (o.fields c) where
  name := by
    change (o.name.map Value.text).getD .null = .null ∨
      ∃ s, (o.name.map Value.text).getD .null = .text s
    cases o.name with
    | none => exact .inl rfl
    | some s => exact .inr ⟨s, rfl⟩
  features := .inr (Value.isTexts_texts _)
  stack := o.atMostTexts_stack
  experience := by
    rintro v ⟨⟩
    exact ⟨_, rfl⟩
  phase := by
    rintro v ⟨⟩
    exact ⟨_, rfl⟩

theorem describedIntent_fields (htype : o.archetype = none) :
    describedIntent o.description (o.fields c) = o.intent := by
  have hfeatures : ((o.fields c).get "detected_features").textItems =
      Text.items (o.features.getD "") := Value.textItems_texts _
  have hstack : ((o.fields c).get "tech_stack").textItems = Text.items (o.tech.getD "") :=
    o.textItems_stack
  rw [describedIntent, hfeatures, hstack, intent, htype]

theorem describedName_fields (hname : o.name ≠ some "") :
    describedName (o.fields c) o.intent = o.projectName := by
  have hget : (o.fields c).get "project_name" = (o.name.map Value.text).getD .null := rfl
  rw [describedName, hget, projectName]
  cases hgiven : o.name with
  | none => rfl
  | some s =>
    have hs : s ≠ "" := fun hempty => hname (by rw [hgiven, hempty])
    simp [hs]

theorem describedSelection_fields (i : Intent) (feedback : List Feedback) :
    describedSelection (o.fields c) i feedback =
      ⟨i, o.experience.getD c.experience, o.phase.getD c.phase, feedback⟩ := by
  have hexperience : (o.fields c).wordOr "user_experience" Experience.intermediate =
      o.experience.getD c.experience := by
    change (Vocabulary.ofName? (Vocabulary.name (o.experience.getD c.experience))).getD _ = _
    rw [Vocabulary.ofName?_name]
    rfl
  have hphase : (o.fields c).wordOr "development_phase" Phase.development =
      o.phase.getD c.phase := by
    change (Vocabulary.ofName? (Vocabulary.name (o.phase.getD c.phase))).getD _ = _
    rw [Vocabulary.ofName?_name]
    rfl
  rw [describedSelection, hexperience, hphase]

end GenerateOptions

/-! ### Arguments -/

theorem Parsed.value?_ne_empty (p : Parsed) (flag : String) : p.value? flag ≠ some "" := by
  intro h
  have hfilter := (Option.filter_eq_some_iff.mp h).2
  simp at hfilter

theorem exists_of_readRequest {config : Option String} {leftOver arguments : List String}
    {name : String} {i : Invocation} (h : readRequest config leftOver name arguments = .ok i) :
    ∃ entry ∈ requests, ∃ p, i.request = entry.2.2 p := by
  unfold readRequest at h
  cases hlookup : requests.lookup name with
  | none =>
    rw [hlookup] at h
    cases h
  | some found =>
    obtain ⟨g, request⟩ := found
    rw [hlookup] at h
    dsimp only at h
    obtain ⟨before, after, hsplit, -⟩ := List.lookup_eq_some_iff.mp hlookup
    have hmem : (name, g, request) ∈ requests := by simp [hsplit]
    split at h
    · cases h
    · next p hp =>
      split at h
      · cases h
        exact ⟨_, hmem, p, rfl⟩
      · cases h

theorem exists_of_readProgram {config : Option String} {leftOver : List String}
    {ms : List (String × Mark)} {i : Invocation} (h : readProgram config leftOver ms = .ok i) :
    ∃ entry ∈ requests, ∃ p, i.request = entry.2.2 p := by
  fun_induction readProgram config leftOver ms
  case case1 | case2 | case6 | case10 => cases h
  case case3 | case4 => exact exists_of_readRequest h
  case case5 ih | case7 ih | case8 ih | case9 ih => exact ih h

/-- The options of a request to generate are read from the values of its flags. -/
theorem exists_eq_generateOptions {arguments : List String} {config : Option String}
    {o : GenerateOptions} (h : Invocation.ofArguments arguments = .ok ⟨config, .generate o⟩) :
    ∃ p, o = generateOptions p := by
  have honly : ∀ entry ∈ requests, ∀ p, Request.generate o = entry.2.2 p →
      o = generateOptions p := by
    simp [requests]
  unfold Invocation.ofArguments at h
  split at h
  · cases h
  · obtain ⟨entry, hentry, p, hp⟩ := exists_of_readProgram h
    exact ⟨p, honly entry hentry p hp⟩

/-- No name that is read from arguments is empty. -/
theorem name_ne_empty {arguments : List String} {config : Option String} {o : GenerateOptions}
    (h : Invocation.ofArguments arguments = .ok ⟨config, .generate o⟩) : o.name ≠ some "" := by
  obtain ⟨p, rfl⟩ := exists_eq_generateOptions h
  exact p.value?_ne_empty "--name"

/-! ### Feedback -/

/-- No file of feedback is named, or one that is there and lists what is valid. -/
inductive FeedbackGiven [Host] (files : Files.Tree) : Option String → List Feedback → Prop
  | none : FeedbackGiven files none []
  | file {path : String} {feedback : List Feedback}
      (hfile : files.isFile (Files.Path.ofText path) = .ok true)
      (hdepth : nesting? files (Files.Path.ofText path) = none)
      (hread : readFeedback files path = .ok feedback) : FeedbackGiven files (some path) feedback

theorem FeedbackGiven.feedbackOf_eq [Host] {files : Files.Tree} {path : Option String}
    {feedback : List Feedback} (h : FeedbackGiven files path feedback) :
    feedbackOf files path = .ok (.ok feedback) := by
  cases h with
  | none => rfl
  | file hfile hdepth hread =>
    unfold feedbackOf
    dsimp only
    rw [hfile]
    dsimp only
    rw [hdepth, hread]
    rfl

/-! ### Generating -/

/-- The context that the command builds. -/
def GenerateOptions.context (o : GenerateOptions) (c : Config) (clock : Clock) : PromptContext :=
  contextFor o.intent o.projectName c.toolVersion o.stack clock.today

/-- The selection that the command asks for. -/
def GenerateOptions.selection (o : GenerateOptions) (c : Config) (feedback : List Feedback) :
    Selection :=
  ⟨o.intent, o.experience.getD c.experience, o.phase.getD c.phase, feedback⟩

section

variable [Console] [Host] {o : GenerateOptions} {c : Config} {files : Files.Tree} {clock : Clock}
  {feedback : List Feedback}

/-- The library on the same description, with a fresh engine of the same configuration. -/
def library (o : GenerateOptions) (c : Config) (files : Files.Tree) (clock : Clock)
    (feedback : List Feedback) : Except Failure Rendering × Session :=
  (Engine.generateFromDescription o.description (o.fields c) feedback).start
    (engineOf c files clock)

theorem library_eq (htype : o.archetype = none) (hname : o.name ≠ some "") :
    library o c files clock feedback =
      (Engine.generate o.intent.archetype (o.context c clock).toFields
        (some (o.selection c feedback))).start (engineOf c files clock) := by
  have hstart := Engine.generateFromDescription_start (o.wellGiven_fields c) o.description feedback
    (engineOf c files clock)
  dsimp only at hstart
  rw [o.describedIntent_fields htype, o.describedName_fields hname,
    o.describedSelection_fields] at hstart
  exact hstart

/-- What the engine of a configuration comes to for the options, with some feedback. -/
def generation (o : GenerateOptions) (c : Config) (files : Files.Tree) (clock : Clock)
    (feedback : List Feedback) : Except Failure Rendering × Session :=
  (Engine.generate o.intent.archetype (o.context c clock).toFields
    (some (o.selection c feedback))).start (engineOf c files clock)

/-- The end of a request to generate: the rendering is shown, and a prompt is handed over. -/
def conclude (o : GenerateOptions) (r : Rendering) : Job Nat := do
  Job.emit [.rendering r]
  match r.outcome with
  | .error _ => return 1
  | .prompt prompt =>
    deliver o prompt
    return 0

/-- A request with feedback that is valid goes on with what the engine comes to. -/
theorem generate_run (hasked : ¬(o.description = "" ∧ o.archetype = none))
    (hfeedback : feedbackOf files o.feedback = .ok (.ok feedback)) :
    generate (engineOf c files clock) c o ⟨[], files⟩ =
      match generation o c files clock feedback with
      | (.error f, t) => .error f ⟨t.notes.map .line, files⟩
      | (.ok r, t) => conclude o r ⟨t.notes.map .line, files⟩ := by
  have hcontext : (Act.ofExcept (buildContext o.intent (.text o.projectName) c.toolVersion o.stack
      .null clock.today [])).start (engineOf c files clock) =
        (.ok (o.context c clock), .start (engineOf c files clock)) := by
    rw [buildContext_eq_ok o.atMostTexts_stack]
    rfl
  have hgiven : Job.ofExcept (feedbackOf files o.feedback) ⟨[], files⟩ =
      .ok (.ok feedback) ⟨[], files⟩ := by
    rw [hfeedback]
    rfl
  rw [generate, if_neg hasked]
  refine (EStateM.bind_ok (Job.files_run _)).trans ?_
  refine (EStateM.bind_ok hgiven).trans ?_
  refine (EStateM.bind_ok (Job.onEngine_ok hcontext _)).trans ?_
  match hresult : generation o c files clock feedback with
  | (.error f, t) => exact EStateM.bind_error (Job.onEngine_error hresult _)
  | (.ok r, t) => exact EStateM.bind_ok (Job.onEngine_ok hresult _)

omit [Host] in
theorem conclude_refused {r : Rendering} {message : String}
    (h : (Event.rendering r).refusal? = some message) (d : Desk) :
    conclude o r d =
      .error (.markup message) { d with events := d.events ++ [Event.rendering r] } := by
  have hhanded : Event.handed [Event.rendering r] = [Event.rendering r] := by
    simp [Event.handed, h]
  have hemit := Job.emit_run [Event.rendering r] d
  rw [List.findSome?_singleton, h, hhanded] at hemit
  exact EStateM.bind_error hemit

omit [Host] in
theorem conclude_taken {r : Rendering} (h : (Event.rendering r).refusal? = none) (d : Desk) :
    conclude o r d = (match r.outcome with
      | .error _ => return 1
      | .prompt prompt => do
        deliver o prompt
        return 0 : Job Nat) { d with events := d.events ++ [Event.rendering r] } :=
  EStateM.bind_ok (Job.emit_ok (List.forall_mem_singleton.mpr h) d)

omit [Host] in
/-- A prompt that is not to be saved is printed under a header. -/
theorem deliver_shown (houtput : o.output = none) (prompt : String) (d : Desk) :
    deliver o prompt d = .ok () { d with
      events := d.events ++
        (Event.header (Text.fileName o.projectName ++ " prompt") ++ [.plain prompt]) } := by
  have htaken : Taken (Event.header (Text.fileName o.projectName ++ " prompt") ++
      [.plain prompt]) :=
    List.forall_mem_append.mpr
      ⟨taken_header o.projectName, List.forall_mem_singleton.mpr (Event.refusal?_plain prompt)⟩
  rw [deliver, houtput]
  exact Job.emit_ok htaken d

/-- What the command makes of what the library comes to: the notes and the rendering are shown, and
unless the console refuses the rendering, a prompt is handed over. -/
def handOver (o : GenerateOptions) (files : Files.Tree) :
    Except Failure Rendering × Session → EStateM.Result Failure Desk Nat
  | (.error f, t) => .error f ⟨t.notes.map .line, files⟩
  | (.ok r, t) =>
    match (Event.rendering r).refusal? with
    | some message => .error (.markup message) ⟨t.notes.map .line ++ [.rendering r], files⟩
    | none =>
      match r.outcome with
      | .error _ => .ok 1 ⟨t.notes.map .line ++ [.rendering r], files⟩
      | .prompt prompt =>
        .ok 0 ⟨t.notes.map .line ++ [.rendering r] ++
          (Event.header (Text.fileName o.projectName ++ " prompt") ++ [.plain prompt]), files⟩

/-- The command comes to what the library comes to. -/
theorem generate_eq_handOver (hdescription : o.description ≠ "") (htype : o.archetype = none)
    (houtput : o.output = none) (hname : o.name ≠ some "")
    (hfeedback : FeedbackGiven files o.feedback feedback) :
    generate (engineOf c files clock) c o ⟨[], files⟩ =
      handOver o files (library o c files clock feedback) := by
  have hlibrary : library o c files clock feedback = generation o c files clock feedback :=
    library_eq htype hname
  rw [hlibrary, generate_run (fun h => hdescription h.1) hfeedback.feedbackOf_eq]
  match generation o c files clock feedback with
  | (.error f, t) => rfl
  | (.ok r, t) =>
    dsimp only [handOver]
    cases hrefusal : (Event.rendering r).refusal? with
    | some message => exact conclude_refused hrefusal _
    | none =>
      rw [conclude_taken hrefusal]
      cases r.outcome with
      | error message => rfl
      | prompt prompt => exact EStateM.bind_ok (deliver_shown houtput prompt _)

/-- An engine fails for one thing only on its own account: a path of a body that is too long to be
looked at. -/
theorem cause_of_generation {f : Failure}
    (h : (generation o c files clock feedback).1 = .error f) :
    (∃ path, f = .file (.system .tooLong path)) ∨
      ∃ message, f = .markup message ∧
        Refused (generation o c files clock feedback).2 message := by
  have hrec : (engineOf c files clock).store.Recoverable := Store.recoverable_ofDirectory _ _
  have hsound : (engineOf c files clock).Sound := Engine.sound_of_cache_eq_nil rfl
  have hspelt : (o.context c clock).toFields.Spelt := spelt_contextFor _ _ _ _ _
  refine (Act.start_error (Engine.heeds_generate _ _ _) h).imp_left ?_
  intro hquiet
  rw [Engine.generate_start hsound hrec] at hquiet
  rcases Engine.answer_error hrec hquiet with hsilent | ⟨-, hunscorable | hoverlong⟩
  · obtain ⟨path, e, herror, rfl⟩ := hsilent
    obtain ⟨full, rfl⟩ := Files.Tree.tooLong_of_isFile herror
    exact ⟨full, rfl⟩
  · exact absurd hunscorable ((Engine.Contextual.context _).not_unscorable f)
  · exact absurd hspelt hoverlong.1

theorem cause_of_library (htype : o.archetype = none) (hname : o.name ≠ some "") {f : Failure}
    (h : (library o c files clock feedback).1 = .error f) :
    (∃ path, f = .file (.system .tooLong path)) ∨
      ∃ message, f = .markup message ∧
        Refused (library o c files clock feedback).2 message := by
  have hlibrary : library o c files clock feedback = generation o c files clock feedback :=
    library_eq htype hname
  rw [hlibrary] at h ⊢
  exact cause_of_generation h

end

/-! ### Reports -/

/-- The text that an event prints as it is, but for what the host makes of it. -/
def Event.printed? [Host] : Event → Option String
  | .plain text => some (Host.written text)
  | _ => none

/-- The texts that a report prints as they are, but for what the host makes of them. -/
def Report.printed [Host] (r : Report) : List String :=
  r.events.filterMap Event.printed?

/-- A report tells what the library came to: it ends well for a prompt alone, which is all that is
printed, ends with one for an error, which is shown, and is broken off by what the library fails
for. All that can come between is the console, which may refuse the rendering. -/
structure Agrees [Console] [Host] (report : Report)
    (library : Except Failure Rendering × Session) : Prop where
  succeeds_iff : report.ending = .exit 0 ↔
    ∃ r, library.1 = .ok r ∧ r.prompt?.isSome ∧ (Event.rendering r).refusal? = none
  prompt : ∀ r prompt, library.1 = .ok r → r.prompt? = some prompt → report.ending = .exit 0 →
    report.printed = [Host.written prompt] ∧ (Steady prompt → report.printed = [prompt])
  error : ∀ r message, library.1 = .ok r → r.error? = some message →
    (Event.rendering r).refusal? = none → report.ending = .exit 1 ∧ report.printed = [] ∧
      .panel ("[red]" ++ message ++ "[/red]") "Generation Failed" "red" ∈ report.events
  refused : ∀ r message, library.1 = .ok r → (Event.rendering r).refusal? = some message →
    report.ending = .broken (.markup message) ∧ report.printed = []
  failure : ∀ f, library.1 = .error f → report.ending = .broken f ∧ report.printed = [] ∧
    ((∃ path, f = .file (.system .tooLong path)) ∨
      ∃ message, f = .markup message ∧ Refused library.2 message)

section

variable [Host]

theorem printed?_notes (notes : List String) :
    (notes.map Event.line).filterMap Event.printed? = [] := by
  rw [List.filterMap_map, List.filterMap_eq_nil_iff]
  exact fun _ _ => rfl

theorem printed?_rendering (r : Rendering) : (Event.rendering r).printed? = none := by
  unfold Event.rendering
  cases r.outcome <;> rfl

/-- Nothing is printed up to the rendering. -/
theorem printed?_rendered (notes : List String) (r : Rendering) :
    (notes.map Event.line ++ [Event.rendering r]).filterMap Event.printed? = [] := by
  rw [List.filterMap_append, printed?_notes, List.filterMap_cons_none (printed?_rendering r)]
  rfl

variable [Console] {r : Rendering} {t : Session} {events : List Event} {files : Files.Tree}

theorem agrees_of_refused {message : String}
    (hrefusal : (Event.rendering r).refusal? = some message)
    (hevents : events.filterMap Event.printed? = []) :
    Agrees ⟨.broken (.markup message), events, files⟩ (.ok r, t) where
  succeeds_iff := by
    constructor
    · nofun
    · rintro ⟨r, ⟨⟩, -, htaken⟩
      rw [hrefusal] at htaken
      cases htaken
  prompt := nofun
  error := by
    rintro r text ⟨⟩ - htaken
    rw [hrefusal] at htaken
    cases htaken
  refused := by
    rintro r text ⟨⟩ hr
    rw [hrefusal] at hr
    cases hr
    exact ⟨rfl, hevents⟩
  failure := nofun

theorem agrees_of_prompt {prompt : String} (houtcome : r.outcome = .prompt prompt)
    (htaken : (Event.rendering r).refusal? = none)
    (hevents : events.filterMap Event.printed? = [Host.written prompt]) :
    Agrees ⟨.exit 0, events, files⟩ (.ok r, t) where
  succeeds_iff := by
    have hprompt : r.prompt?.isSome := by rw [Rendering.prompt?, houtcome]; rfl
    exact ⟨fun _ => ⟨r, rfl, hprompt, htaken⟩, fun _ => rfl⟩
  prompt := by
    rintro r text ⟨⟩ hr -
    rw [Rendering.prompt?, houtcome] at hr
    cases hr
    refine ⟨hevents, ?_⟩
    intro hsteady
    rw [Host.writes hsteady] at hevents
    exact hevents
  error := by
    rintro r message ⟨⟩ hr
    rw [Rendering.error?, houtcome] at hr
    cases hr
  refused := by
    rintro r message ⟨⟩ hr
    rw [htaken] at hr
    cases hr
  failure := nofun

theorem agrees_of_error {message : String} (houtcome : r.outcome = .error message)
    (htaken : (Event.rendering r).refusal? = none)
    (hevents : events.filterMap Event.printed? = []) (hmem : .rendering r ∈ events) :
    Agrees ⟨.exit 1, events, files⟩ (.ok r, t) where
  succeeds_iff := by
    constructor
    · nofun
    · rintro ⟨r, ⟨⟩, hr, -⟩
      rw [Rendering.prompt?, houtcome] at hr
      cases hr
  prompt := nofun
  error := by
    rintro r text ⟨⟩ hr -
    rw [Rendering.error?, houtcome] at hr
    cases hr
    rw [Event.rendering, houtcome] at hmem
    exact ⟨rfl, hevents, hmem⟩
  refused := by
    rintro r message ⟨⟩ hr
    rw [htaken] at hr
    cases hr
  failure := nofun

theorem agrees_handOver {o : GenerateOptions} {library : Except Failure Rendering × Session}
    (hfailure : ∀ f, library.1 = .error f → (∃ path, f = .file (.system .tooLong path)) ∨
      ∃ message, f = .markup message ∧ Refused library.2 message) :
    Agrees (.ofResult (handOver o files library)) library := by
  obtain ⟨result, t⟩ := library
  cases result with
  | error f =>
    refine ⟨⟨nofun, nofun⟩, nofun, nofun, nofun, ?_⟩
    rintro f ⟨⟩
    exact ⟨rfl, printed?_notes _, hfailure f rfl⟩
  | ok r =>
    have hshown := printed?_rendered t.notes r
    dsimp only [handOver]
    cases hrefusal : (Event.rendering r).refusal? with
    | some message => exact agrees_of_refused hrefusal hshown
    | none =>
      cases houtcome : r.outcome with
      | error message =>
        exact agrees_of_error houtcome hrefusal hshown
          (List.mem_append_right _ List.mem_cons_self)
      | prompt prompt =>
        refine agrees_of_prompt houtcome hrefusal ?_
        rw [List.filterMap_append, hshown]
        rfl

end

theorem run_eq_ofResult [Console] [Host] {s : Scene} {arguments : List String} {i : Invocation}
    (h : Invocation.ofArguments arguments = .ok i) :
    run s arguments = .ofResult (perform s i ⟨[], s.files⟩) := by
  rw [run, h]
  dsimp only
  cases perform s i ⟨[], s.files⟩ <;> rfl

theorem run_eq_handOver [Console] [Host] {s : Scene} {arguments : List String}
    {config : Option String} {o : GenerateOptions} {c : Config} {feedback : List Feedback}
    (hparse : Invocation.ofArguments arguments = .ok ⟨config, .generate o⟩)
    (hdescription : o.description ≠ "") (htype : o.archetype = none) (houtput : o.output = none)
    (hconfig : loadConfig s config = .ok c)
    (hfeedback : FeedbackGiven s.files o.feedback feedback) :
    run s arguments = .ofResult (handOver o s.files (library o c s.files s.clock feedback)) := by
  have hanswer : generate (engineOf c s.files s.clock) c o ⟨[], s.files⟩ = _ :=
    generate_eq_handOver hdescription htype houtput (name_ne_empty hparse) hfeedback
  rw [run_eq_ofResult hparse, perform, hconfig, ← hanswer]
  rfl

/-- For every configuration, and every request to generate from a description that names neither an
archetype nor an output and no feedback that is not valid, the command tells what the library comes
to with the same configuration, description, options and feedback. -/
theorem run_generate_agrees [Console] [Host] {s : Scene} {arguments : List String}
    {config : Option String} {o : GenerateOptions} {c : Config} {feedback : List Feedback}
    (hparse : Invocation.ofArguments arguments = .ok ⟨config, .generate o⟩)
    (hdescription : o.description ≠ "") (htype : o.archetype = none) (houtput : o.output = none)
    (hconfig : loadConfig s config = .ok c)
    (hfeedback : FeedbackGiven s.files o.feedback feedback) :
    Agrees (run s arguments) (library o c s.files s.clock feedback) := by
  rw [run_eq_handOver hparse hdescription htype houtput hconfig hfeedback]
  exact agrees_handOver fun _ => cause_of_library htype (name_ne_empty hparse)

section

variable [Console] [Host] {o : GenerateOptions} {c : Config}

/-- The bundled bodies have a prompt for every archetype. -/
theorem generation_served (hdirectory : c.templatesDir = bundledRoot)
    (hbase : c.baseFiles = defaultBaseFiles) (files : Files.Tree) (clock : Clock)
    {feedback : List Feedback}
    (hfeedback : ∀ f ∈ feedback, Console.refusal? (Catalog.ignoredNote f.variantId) = none) :
    ∃ r, (generation o c files clock feedback).1 = .ok r ∧ r.prompt?.isSome := by
  have hserves : (engineOf c files clock).store.Serves Bodies.all := by
    rw [engineOf, hdirectory]
    exact Store.serves_withBundled files
  have hrec : (engineOf c files clock).store.Recoverable := Store.recoverable_ofDirectory _ _
  have hsound : (engineOf c files clock).Sound := Engine.sound_of_cache_eq_nil rfl
  obtain ⟨r, prompt, hr, hserved, -⟩ := Engine.answer_served hserves hbase (.refl _) o.kind
    (.context (o.context c clock)) (spelt_contextFor _ _ _ _ _) (o.selection c feedback)
  refine ⟨r, ?_, ?_⟩
  · rw [generation, o.archetype_intent, Engine.generate_start_of_heard hsound hrec
      (Engine.heard_bundled hsound hserves hbase (.refl _) o.kind hfeedback), hr]
  · rw [hserved.succeeds]
    rfl

theorem library_served (htype : o.archetype = none) (hname : o.name ≠ some "")
    (hdirectory : c.templatesDir = bundledRoot) (hbase : c.baseFiles = defaultBaseFiles)
    (files : Files.Tree) (clock : Clock) {feedback : List Feedback}
    (hfeedback : ∀ f ∈ feedback, Console.refusal? (Catalog.ignoredNote f.variantId) = none) :
    ∃ r, (library o c files clock feedback).1 = .ok r ∧ r.prompt?.isSome := by
  rw [library_eq htype hname]
  exact generation_served hdirectory hbase files clock hfeedback

end

/-- A file of feedback in the current directory, with one entry. -/
def feedbackFiles : Files.Tree :=
  .ofFiles [] [(["votes.json"], .text
    "[\x7b\"variant_id\": \"blog-simple\", \"rating\": 1, \"usage\": \"not_helpful\"\x7d]")]

section

attribute [local instance] Console.quiet Host.plain

/-- A request with a name, technologies, a phase and feedback: the bundled templates answer. -/
theorem run_generate_agrees_blog :
    let s : Scene := ⟨[], feedbackFiles, ⟨"2024-01-01", "2024-01-01T00:00:00"⟩⟩
    let arguments := ["generate", "A blog", "--name", "Notes", "--tech=React, ", "--phase=planning",
      "--feedback", "votes.json"]
    let o : GenerateOptions := ⟨"A blog", none, some "Notes", none, some "React, ", none,
      some .planning, some "votes.json", none⟩
    let c : Config := ⟨bundledRoot, "1.0.0", 200, .intermediate, .development, defaultBaseFiles⟩
    let feedback : List Feedback := [⟨"blog-simple", 1, .notHelpful, ""⟩]
    Invocation.ofArguments arguments = .ok ⟨none, .generate o⟩ ∧ loadConfig s none = .ok c ∧
      FeedbackGiven s.files o.feedback feedback ∧ (run s arguments).ending = .exit 0 ∧
      ∃ r prompt, (library o c s.files s.clock feedback).1 = .ok r ∧ r.prompt? = some prompt ∧
        (run s arguments).printed = [prompt] := by
  intro s arguments o c feedback
  have hparse : Invocation.ofArguments arguments = .ok ⟨none, .generate o⟩ := by decide +kernel
  have hconfig : loadConfig s none = .ok c := by decide +kernel
  have hfeedback : FeedbackGiven s.files o.feedback feedback :=
    .file (by decide +kernel) (by decide +kernel) (by decide +kernel)
  have hagrees : Agrees (run s arguments) (library o c s.files s.clock feedback) :=
    run_generate_agrees hparse (by decide) rfl rfl hconfig hfeedback
  have htaken : ∀ f ∈ feedback, Console.refusal? (Catalog.ignoredNote f.variantId) = none :=
    fun _ _ => rfl
  obtain ⟨r, hr, hsome⟩ := library_served (o := o) (c := c) rfl (by decide) rfl rfl s.files s.clock
    htaken
  obtain ⟨prompt, hprompt⟩ := Option.isSome_iff_exists.mp hsome
  have hend : (run s arguments).ending = .exit 0 :=
    hagrees.succeeds_iff.mpr ⟨r, hr, hsome, Event.refusal?_quiet _⟩
  exact ⟨hparse, hconfig, hfeedback, hend, r, prompt, hr, hprompt,
    (hagrees.prompt r prompt hr hprompt hend).1⟩

end

/-! ### A directory with a long name -/

theorem ofEnvironment_directory {directory : String} (h : directory ≠ "") :
    Config.ofEnvironment [("PROMPTGEN_TEMPLATES_DIR", directory)] =
      .ok ⟨Files.normalText directory, "1.0.0", 200, .intermediate, .development,
        defaultBaseFiles⟩ := by
  have hset : Config.setting? [("PROMPTGEN_TEMPLATES_DIR", directory)] "TEMPLATES_DIR" =
      some directory := by
    have hlookup : List.lookup ("PROMPTGEN_" ++ "TEMPLATES_DIR")
        [("PROMPTGEN_TEMPLATES_DIR", directory)] = some directory := rfl
    rw [Config.setting?, hlookup]
    exact Option.filter_some_pos (by simpa using h)
  have hunset (name : String) (hne : "PROMPTGEN_" ++ name ≠ "PROMPTGEN_TEMPLATES_DIR") :
      Config.setting? [("PROMPTGEN_TEMPLATES_DIR", directory)] name = none := by
    rw [Config.setting?, List.lookup_cons, beq_false_of_ne hne]
    rfl
  rw [Config.ofEnvironment, hset, hunset _ (by decide), hunset _ (by decide),
    hunset _ (by decide), hunset _ (by decide)]
  rfl

section

variable {directory : String}

theorem ne_of_long {s : String} (hlong : Files.maxNameBytes < directory.utf8ByteSize)
    (hs : s.utf8ByteSize ≤ Files.maxNameBytes) : directory ≠ s := by
  rintro rfl
  exact absurd hlong (Nat.not_lt.mpr hs)

theorem ofText_of_long (hslash : '/' ∉ directory.toList)
    (hlong : Files.maxNameBytes < directory.utf8ByteSize) :
    Files.Path.ofText directory = ⟨"", [directory]⟩ :=
  Files.Path.ofText_of_not_mem hslash (ne_of_long hlong (by decide)) (ne_of_long hlong (by decide))

theorem has_of_long (hslash : '/' ∉ directory.toList) (hnull : '\x00' ∉ directory.toList)
    (hlong : Files.maxNameBytes < directory.utf8ByteSize) (t : Files.Tree) :
    (Store.ofDirectory t directory).has Archetype.blog.mainPath =
      .error (.system .tooLong (directory ++ "/blog/main-prompt.md")) := by
  have hparts : Files.Path.components Archetype.blog.mainPath = ["blog", "main-prompt.md"] := by
    decide +kernel
  have hjoin : (Files.Path.ofText directory).join Archetype.blog.mainPath =
      ⟨"", [directory, "blog", "main-prompt.md"]⟩ := by
    rw [Files.Path.join, ofText_of_long hslash hlong, hparts]
    rfl
  have htext : (Files.Path.mk "" [directory, "blog", "main-prompt.md"]).text =
      directory ++ "/blog/main-prompt.md" := by
    rw [← String.toList_inj]
    simp [Files.Path.text]
  have hnull' : '\x00' ∉ (directory ++ "/blog/main-prompt.md").toList := by
    rw [String.toList_append, List.mem_append, not_or]
    exact ⟨hnull, by decide +kernel⟩
  change t.isFile ((Files.Path.ofText directory).join Archetype.blog.mainPath) = _
  rw [hjoin, Files.Tree.isFile_of_long rfl hlong (htext ▸ hnull'), htext]

/-- From a directory of a name that is too long the library fails. -/
theorem library_of_long [Console] [Host] {o : GenerateOptions} {c : Config}
    (htype : o.archetype = none) (hname : o.name ≠ some "")
    (hblog : o.intent.archetype = Archetype.blog.name) (hslash : '/' ∉ c.templatesDir.toList)
    (hnull : '\x00' ∉ c.templatesDir.toList)
    (hlong : Files.maxNameBytes < c.templatesDir.utf8ByteSize) (files : Files.Tree) (clock : Clock)
    (feedback : List Feedback) :
    library o c files clock feedback =
      (.error (.file (.system .tooLong (c.templatesDir ++ "/blog/main-prompt.md"))),
        .start (engineOf c files clock)) := by
  have hhas : (engineOf c files clock).store.has Archetype.blog.mainPath = _ :=
    has_of_long hslash hnull hlong files.withBundled
  rw [library_eq htype hname, hblog, Engine.generate_of_has_error hhas]

/-- The options of a request with a description alone. -/
def GenerateOptions.ofDescription (description : String) : GenerateOptions :=
  ⟨description, none, none, none, none, none, none, none, none⟩

theorem ofArguments_blog : Invocation.ofArguments ["generate", "A blog"] =
    .ok ⟨none, .generate (.ofDescription "A blog")⟩ := by
  decide +kernel

theorem loadConfig_of_long {s : Scene}
    (hdirectory : s.environment = [("PROMPTGEN_TEMPLATES_DIR", directory)])
    (hslash : '/' ∉ directory.toList) (hlong : Files.maxNameBytes < directory.utf8ByteSize) :
    loadConfig s none =
      .ok ⟨directory, "1.0.0", 200, .intermediate, .development, defaultBaseFiles⟩ := by
  rw [loadConfig, hdirectory, ofEnvironment_directory (ne_of_long hlong (by decide)),
    Files.normalText, ofText_of_long hslash hlong]
  simp [Files.Path.text]

/-- A directory that cannot be looked at breaks the command off, and nothing is shown. -/
theorem run_generate_of_long [Console] [Host] {s : Scene}
    (hdirectory : s.environment = [("PROMPTGEN_TEMPLATES_DIR", directory)])
    (hslash : '/' ∉ directory.toList) (hnull : '\x00' ∉ directory.toList)
    (hlong : Files.maxNameBytes < directory.utf8ByteSize) :
    run s ["generate", "A blog"] =
      ⟨.broken (.file (.system .tooLong (directory ++ "/blog/main-prompt.md"))), [], s.files⟩ := by
  have hconfig := loadConfig_of_long hdirectory hslash hlong
  have hblog : (GenerateOptions.ofDescription "A blog").intent.archetype =
      Archetype.blog.name := by
    decide +kernel
  rw [run_eq_handOver ofArguments_blog (by decide) rfl rfl hconfig .none,
    library_of_long rfl (by decide) hblog hslash hnull hlong]
  rfl

end

/-- A name that is longer than a file system allows. -/
def longName : String :=
  String.ofList (List.replicate 300 'a')

theorem toList_longName : longName.toList = List.replicate 300 'a' :=
  String.toList_ofList

attribute [local instance] Console.quiet Host.plain

theorem run_generate_longName :
    let s : Scene := ⟨[("PROMPTGEN_TEMPLATES_DIR", longName)], Files.Tree.empty [],
      ⟨"2024-01-01", "2024-01-01T00:00:00"⟩⟩
    let arguments := ["generate", "A blog"]
    Invocation.ofArguments arguments = .ok ⟨none, .generate (.ofDescription "A blog")⟩ ∧
      (∃ c, loadConfig s none = .ok c) ∧
      (run s arguments).ending =
        .broken (.file (.system .tooLong (longName ++ "/blog/main-prompt.md"))) ∧
      (run s arguments).events = [] := by
  intro s arguments
  have hslash : '/' ∉ longName.toList := by
    rw [toList_longName, List.mem_replicate]
    decide
  have hnull : '\x00' ∉ longName.toList := by
    rw [toList_longName, List.mem_replicate]
    decide
  have hlong : Files.maxNameBytes < longName.utf8ByteSize := by decide +kernel
  have hdirectory : s.environment = [("PROMPTGEN_TEMPLATES_DIR", longName)] := rfl
  have hreport : run s arguments = _ := run_generate_of_long hdirectory hslash hnull hlong
  rw [hreport]
  exact ⟨ofArguments_blog, ⟨_, loadConfig_of_long hdirectory hslash hlong⟩, rfl, rfl⟩

end Promptsmith.Command
